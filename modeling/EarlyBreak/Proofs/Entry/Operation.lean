import EarlyBreak.Proofs.Entry.Observation

/-! Registries at work: files are guarded and hits are noted in any order, against an engine that
answers in any way.  What one operation can do is said here, once for all that follows from it.
-/

namespace EarlyBreak.Entry

open Debugger

/-- Something that is asked of a registry. -/
inductive Operation where
  /-- A source is guarded. -/
  | guard (source : String)
  /-- A breakpoint was hit in a script that covers a source. -/
  | hit (id : BreakpointId) (source : String)

namespace Registry

variable {registry before after : Registry} {σ : Type}

section Operations

variable [Engine σ]

/-- A registry and its engine after an operation. -/
def operate (registry : Registry) (operation : Operation) (engine : σ) : Registry × σ :=
  match operation with
  | .guard source => (registry.add source engine).2
  | .hit id source => (registry.resolveHit id source engine).2

/-- A registry and its engine after several operations. -/
def operateAll (registry : Registry) (operations : List Operation) (engine : σ) : Registry × σ :=
  operations.foldl (fun (registry, engine) operation => registry.operate operation engine)
    (registry, engine)

theorem operateAll_append (registry : Registry) (earlier : List Operation) (last : Operation)
    (engine : σ)
    : registry.operateAll (earlier ++ [last]) engine
      = (registry.operateAll earlier engine).1.operate last
          (registry.operateAll earlier engine).2 :=
  List.foldl_append

/-- What an operation can do.  In this order: a file waits already; it joins the record that has its
pattern; the engine hands out no breakpoint for it; it gets a record of its own; nothing waits on
the hit; the record that was hit has other files left, and the engine is not asked; it has none
left, and its breakpoint is removed.
-/
inductive Effect (before : Registry) (engine : σ) : Operation → Registry → σ → Prop
  | waiting {source : String} {slot : Nat}
    (known : before.byFile.find? (ScriptUrl.canonical source) = some slot)
    : Effect before engine (.guard source) before engine
  | shared {source : String} {slot : Nat} {record : Record}
    (unknown : before.byFile.find? (ScriptUrl.canonical source) = none)
    (live : before.record? slot = some record)
    (patterned : Entry.pattern (ScriptUrl.canonical source) = record.pattern)
    : Effect before engine (.guard source)
        (before.addPending slot (ScriptUrl.canonical source)) engine
  | refused {source : String} {reply : Reply} {asked : σ}
    (replied
      : Engine.perform
          (.setBreakpoint (.atEntry (Entry.pattern (ScriptUrl.canonical source)))) engine
        = (reply, asked))
    (unnamed : ∀ id, reply ≠ .ok (some id))
    : Effect before engine (.guard source) before asked
  | installed {source : String} {id : BreakpointId} {asked : σ}
    (unknown : before.byFile.find? (ScriptUrl.canonical source) = none)
    (unshared : before.byPattern.find? (Entry.pattern (ScriptUrl.canonical source)) = none)
    (replied
      : Engine.perform
          (.setBreakpoint (.atEntry (Entry.pattern (ScriptUrl.canonical source)))) engine
        = (.ok (some id), asked))
    : Effect before engine (.guard source)
        (before.insert
          ⟨Entry.pattern (ScriptUrl.canonical source), id, [ScriptUrl.canonical source]⟩
          (expression (stem (ScriptUrl.canonical source).toList)))
        asked
  | missed {id : BreakpointId} {source : String}
    (idle
      : ∀ {slot record},
          before.byBreakpoint.find? id = some slot
          → before.record? slot = some record
          → ScriptUrl.canonical source ∉ record.pending)
    : Effect before engine (.hit id source) before engine
  | lessened {id : BreakpointId} {source : String} {slot : Nat} {record left : Record}
    (found : before.byBreakpoint.find? id = some slot)
    (live : before.record? slot = some record)
    (waits : ScriptUrl.canonical source ∈ record.pending)
    (rest : record.release [ScriptUrl.canonical source] = some left)
    : Effect before engine (.hit id source)
        (before.removePending slot record (ScriptUrl.canonical source)).2 engine
  | dropped {id : BreakpointId} {source : String} {slot : Nat} {record : Record} {reply : Reply}
    {asked : σ} (found : before.byBreakpoint.find? id = some slot)
    (live : before.record? slot = some record)
    (waits : ScriptUrl.canonical source ∈ record.pending)
    (rest : record.release [ScriptUrl.canonical source] = none)
    (replied : Engine.perform (.removeBreakpoint record.id) engine = (reply, asked))
    : Effect before engine (.hit id source)
        (before.removePending slot record (ScriptUrl.canonical source)).2 asked

/-- A guard request has the effect that the cases of an operation allow. -/
theorem Coherent.effect_add (coherent : registry.Coherent) (source : String) (engine : σ)
    : Effect registry engine (.guard source) (registry.add source engine).2.1
        (registry.add source engine).2.2 := by
  simp only [Registry.add]
  cases known : registry.byFile.find? (ScriptUrl.canonical source) with
  | some slot => exact .waiting known
  | none =>
      simp only
      split
      case h_1 slot shared =>
        obtain ⟨record, live, named⟩ := (coherent.patterns _ slot).mp shared
        exact .shared known live named.symm
      case h_2 unshared =>
        split
        case h_1 id asked replied => exact .installed known unshared replied
        case h_2 reply asked unnamed replied =>
          exact .refused replied fun id named => unnamed id named

/-- So has a hit, which releases what the hit breakpoints guard. -/
theorem Coherent.effect_resolveHit (coherent : registry.Coherent) (id : BreakpointId)
    (source : String) (engine : σ)
    : Effect registry engine (.hit id source) (registry.resolveHit id source engine).2.1
        (registry.resolveHit id source engine).2.2 := by
  simp only [Registry.resolveHit]
  cases found : registry.byBreakpoint.find? id with
  | none => exact .missed fun reached => by simp [found] at reached
  | some slot =>
      obtain ⟨record, live, -⟩ := coherent.breakpoints found
      simp only [live]
      split
      case isTrue waits =>
        have waits := List.contains_iff_mem.mp waits
        have remains := record.release_singleton (ScriptUrl.canonical source)
        cases emptied
            : (record.pending.filter (· != ScriptUrl.canonical source)).isEmpty with
        | true =>
            have gone : record.release [ScriptUrl.canonical source] = none := by
              rw [remains, if_pos emptied]
            have dropped : Effect registry engine (.hit id source) _
                (Engine.perform (.removeBreakpoint record.id) engine).2 :=
              .dropped found live waits gone rfl
            simpa only [Registry.removePending, emptied, if_true] using dropped
        | false =>
            obtain ⟨left, rest⟩ : ∃ left, record.release [ScriptUrl.canonical source] = some left :=
              ⟨_, by rw [remains, emptied]; rfl⟩
            have lessened : Effect registry engine (.hit id source) _ _ :=
              .lessened found live waits rest
            simpa only [Registry.removePending, emptied, Bool.false_eq_true, if_false]
              using lessened
      case isFalse absent =>
        refine .missed fun reached alive waits => absent ?_
        rw [found, Option.some.injEq] at reached
        subst reached
        rw [live, Option.some.injEq] at alive
        exact List.contains_iff_mem.mpr (alive ▸ waits)

/-- Every operation has such an effect. -/
theorem Coherent.effect (coherent : registry.Coherent) (operation : Operation) (engine : σ)
    : Effect registry engine operation (registry.operate operation engine).1
        (registry.operate operation engine).2 := by
  cases operation with
  | guard source => exact coherent.effect_add source engine
  | hit id source => exact coherent.effect_resolveHit id source engine

theorem Coherent.operate (coherent : registry.Coherent) (operation : Operation) (engine : σ)
    : (registry.operate operation engine).1.Coherent := by
  cases operation with
  | guard source => exact coherent.add source engine
  | hit id source => exact coherent.resolveHit id source engine

/-- A registry stays coherent under any operations, by induction on them. -/
theorem Coherent.operateAll (coherent : registry.Coherent) (operations : List Operation)
    (engine : σ)
    : (registry.operateAll operations engine).1.Coherent := by
  induction operations generalizing registry engine with
  | nil => exact coherent
  | cons operation operations ih => exact ih (coherent.operate operation engine) _

end Operations

theorem addPending_record? {slot : Nat} {record : Record}
    (live : registry.record? slot = some record) (file : String) (other : Nat)
    : (registry.addPending slot file).record? other
      = if other = slot then some { record with pending := insertText file record.pending }
        else registry.record? other := by
  simp only [Registry.addPending, live]
  exact join_getElem?_set (lt_of_record? live) _ other

theorem addPending_byBreakpoint {slot : Nat} {record : Record}
    (live : registry.record? slot = some record) (file : String)
    : (registry.addPending slot file).byBreakpoint = registry.byBreakpoint := by
  simp only [Registry.addPending, live]

theorem Coherent.insert_record? (coherent : registry.Coherent) (record : Record)
    (matcher : Regex) (other : Nat)
    : (registry.insert record matcher).record? other
      = if other = (registry.place record).1 then some record else registry.record? other :=
  coherent.place_record? record other

theorem insert_byBreakpoint (record : Record) (matcher : Regex)
    : (registry.insert record matcher).byBreakpoint
      = registry.byBreakpoint.set record.id (registry.place record).1 := by
  simp only [Registry.insert, place]
  cases registry.free <;> rfl

end Registry

end EarlyBreak.Entry
