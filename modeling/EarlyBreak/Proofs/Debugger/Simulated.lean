import EarlyBreak.Debugger.Simulation

/-! What the commands for breakpoints do to a simulated target: which breakpoints are installed,
what removals were asked for, and which of them failed.
-/

namespace EarlyBreak.Debugger.Simulation

/-- The id of a breakpoint with a number. -/
def numbered (number : Nat) (breakpoint : UrlBreakpoint) : BreakpointId :=
  toString number ++ ":" ++ toString breakpoint.line ++ ":" ++ toString breakpoint.column ++ ":"
    ++ breakpoint.pattern

/-- An id starts with the digits of its number, and no digit is a colon. -/
theorem takeWhile_numbered (number : Nat) (breakpoint : UrlBreakpoint)
    : (numbered number breakpoint).toList.takeWhile (· != ':') = Nat.toDigits 10 number := by
  have digits : ∀ c ∈ Nat.toDigits 10 number, (c != ':') = true := by
    intro c member
    have digit := Nat.isDigit_of_mem_toDigits (by decide) (by decide) member
    rw [bne_iff_ne]
    rintro rfl
    cases digit
  simp only [numbered, Nat.toString_eq_ofList_toDigits, String.toList_append, String.toList_ofList,
    List.append_assoc]
  -- What follows the digits begins with a colon.
  rw [List.takeWhile_append_of_pos digits]
  exact List.append_nil _

/-- An id names its number, which stands in front of its first colon. -/
theorem eq_of_numbered_eq {number other : Nat} {breakpoint elsewhere : UrlBreakpoint}
    (same : numbered number breakpoint = numbered other elsewhere)
    : number = other := by
  have digits : Nat.toDigits 10 number = Nat.toDigits 10 other := by
    rw [← takeWhile_numbered number breakpoint, same, takeWhile_numbered]
  have read := congrArg (Nat.ofDigitChars 10 · 0) digits
  simpa only [Nat.ofDigitChars_ten_toDigits] using read

/-- An id has one of the numbers that were handed out. -/
def Issued (target : Simulation) (id : BreakpointId) : Prop :=
  ∃ number breakpoint, number ≤ target.issued ∧ id = numbered number breakpoint

theorem issued_mono {target later : Simulation} {id : BreakpointId}
    (more : target.issued ≤ later.issued) (issued : target.Issued id)
    : later.Issued id := by
  obtain ⟨number, breakpoint, bound, named⟩ := issued
  exact ⟨number, breakpoint, Nat.le_trans bound more, named⟩

/-- The next id was not handed out before, as its number is new. -/
theorem not_issued_nextId (target : Simulation) (breakpoint : UrlBreakpoint)
    : ¬ target.Issued (target.nextId breakpoint) := by
  rintro ⟨number, other, bound, same⟩
  have next : target.issued + 1 = number := eq_of_numbered_eq same
  omega

/-- The breakpoints that had to be removed, in order. -/
def removals (target : Simulation) : List BreakpointId :=
  target.calls.filterMap fun
    | (.removeBreakpoint id, _) => some id
    | _ => none

/-- The breakpoints that had to be removed and could not be, in order. -/
def failedRemovals (target : Simulation) : List BreakpointId :=
  target.calls.filterMap fun
    | (.removeBreakpoint id, some _) => some id
    | _ => none

/-- A removal that failed was asked for. -/
theorem removals_of_failed {target : Simulation} {id : BreakpointId}
    (failed : id ∈ target.failedRemovals)
    : id ∈ target.removals := by
  obtain ⟨⟨command, failure⟩, called, named⟩ := List.mem_filterMap.mp failed
  refine List.mem_filterMap.mpr ⟨(command, failure), called, ?_⟩
  cases command <;> cases failure <;> simp_all

/-- Nothing happened to the breakpoints of a target. -/
structure Untouched (before after : Simulation) : Prop where
  issued : after.issued = before.issued
  installed : after.installed = before.installed
  removals : after.removals = before.removals
  failedRemovals : after.failedRemovals = before.failedRemovals

/-- A command of a kind that fails changes nothing but the record of calls. -/
theorem perform_of_failing {target : Simulation} {command : Command}
    (failing : target.failing.contains command.kind = true)
    : ∃ e,
        Engine.perform command target
        = (.error e, { target with calls := target.calls ++ [(command, some e)] }) := by
  refine ⟨⟨failureCode, command.kind.name ++ " failed"⟩, ?_⟩
  simp only [Engine.perform, perform, failing, if_true]

/-- Any other command reaches the engine, and is recorded with what came of it. -/
theorem perform_of_not_failing {target : Simulation} {command : Command}
    (reaches : target.failing.contains command.kind = false)
    : Engine.perform command target
      = ((target.reach command).1,
        { (target.reach command).2 with
          calls := (target.reach command).2.calls
            ++ [(command, match (target.reach command).1 with
              | .ok _ => none
              | .error e => some e)] }) := by
  simp only [Engine.perform, perform, reaches]
  rfl

/-- A breakpoint that has to be set is installed under the next id, or nothing happens and there is
no id.
-/
theorem perform_setBreakpoint {target asked : Simulation} {breakpoint : UrlBreakpoint}
    {reply : Reply}
    (replied : Engine.perform (.setBreakpoint breakpoint) target = (reply, asked))
    : (reply = .ok (some (target.nextId breakpoint))
        ∧ asked.issued = target.issued + 1
        ∧ asked.installed = target.installed.set (target.nextId breakpoint) breakpoint
        ∧ asked.removals = target.removals
        ∧ asked.failedRemovals = target.failedRemovals)
      ∨ (∀ id, reply ≠ .ok (some id)) ∧ target.Untouched asked := by
  cases failing : target.failing.contains (Command.setBreakpoint breakpoint).kind with
  | true =>
      obtain ⟨e, failed⟩ := perform_of_failing failing
      obtain ⟨rfl, rfl⟩ := Prod.mk.inj (replied.symm.trans failed)
      exact .inr ⟨nofun, rfl, rfl, by simp [removals], by simp [failedRemovals]⟩
  | false =>
      have reached := perform_of_not_failing failing
      rw [replied] at reached
      obtain ⟨rfl, rfl⟩ := Prod.mk.inj reached
      simp only [reach]
      cases target.mode with
      | fails | withoutId =>
          exact .inr ⟨by simp, rfl, rfl, by simp [removals], by simp [failedRemovals]⟩
      | succeeds =>
          exact .inl ⟨rfl, rfl, rfl, by simp [removals], by simp [failedRemovals]⟩

/-- An installed breakpoint that has to be removed is removed unless that fails. -/
theorem perform_removeBreakpoint {target asked : Simulation} {id : BreakpointId} {reply : Reply}
    (installed : target.installed.has id = true)
    (replied : Engine.perform (.removeBreakpoint id) target = (reply, asked))
    : asked.issued = target.issued
      ∧ asked.removals = target.removals ++ [id]
      ∧ (asked.installed = target.installed.unset id
          ∧ asked.failedRemovals = target.failedRemovals
        ∨ asked.installed = target.installed
          ∧ asked.failedRemovals = target.failedRemovals ++ [id]) := by
  cases failing : target.failing.contains (Command.removeBreakpoint id).kind with
  | true =>
      obtain ⟨e, failed⟩ := perform_of_failing failing
      obtain ⟨rfl, rfl⟩ := Prod.mk.inj (replied.symm.trans failed)
      exact ⟨rfl, by simp [removals], .inr ⟨rfl, by simp [failedRemovals]⟩⟩
  | false =>
      have reached := perform_of_not_failing failing
      rw [replied] at reached
      obtain ⟨rfl, rfl⟩ := Prod.mk.inj reached
      have carriedOut : target.reach (.removeBreakpoint id)
          = (.ok none, { target with installed := target.installed.unset id }) := by
        rw [reach, if_pos installed]
      rw [carriedOut]
      exact ⟨rfl, by simp [removals], .inl ⟨rfl, by simp [failedRemovals]⟩⟩

end EarlyBreak.Debugger.Simulation
