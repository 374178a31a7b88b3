import EarlyBreak.Cache.Entry
import EarlyBreak.FileTree.Replace

/-! A cache in a folder: one file for each key, found by the key's fingerprint.  What cannot be used
any more is removed on the way, and the oldest entries go when there are too many bytes.
-/

namespace EarlyBreak

namespace Cache

/-- What a cache keeps, and for how long. -/
structure Policy where
  /-- Milliseconds that an entry may be used. -/
  timeToLive : Nat := 30 * 24 * 60 * 60 * 1000
  /-- Bytes that the entries may have together. -/
  budget : Nat := 128 * 1024 * 1024
  /-- Milliseconds from one collection to the next. -/
  interval : Nat := 5 * 60 * 1000
  deriving DecidableEq, Repr

/-- Why something could not be done. -/
inductive Error where
  | io (cause : IoError)
  | encoding (cause : EncodingError)
  | notADirectory (root : Path)
  deriving DecidableEq, Repr

/-- The text of an error. -/
def Error.message : Error → String
  | .io cause => "io error: " ++ cause.message
  | .encoding cause => "bincode error: " ++ cause.message
  | .notADirectory root => "cache root " ++ root.text ++ " is not a directory"

/-- Removes a file if that is possible; whether it is gone. -/
def discard (tree : FileTree) (path : Path) : Bool × FileTree :=
  match tree.remove? path with
  | .ok removed => (true, removed)
  | .error .notFound => (true, tree)
  | .error _ => (false, tree)

/-- What the file of an entry holds. -/
inductive Stored where
  | missing
  /-- Something that is no file of a size that an entry may have. -/
  | unfit
  | bytes (contents : ByteArray)

/-- What is stored under a path. -/
def stored (tree : FileTree) (path : Path) : Stored :=
  match tree.ownNode? path with
  | .ok (.file contents _) => if contents.size ≤ entryLimit then .bytes contents else .unfit
  | .ok _ => .unfit
  | .error _ => .missing

/-- How long the file of a writer that may still be at work is left alone. -/
def temporaryGrace : Nat := 60 * 60 * 1000

/-- Whether a text occurs in another. -/
def occursIn (part : List Char) : List Char → Bool
  | [] => part.isEmpty
  | c :: rest => part.isPrefixOf (c :: rest) || occursIn part rest

/-- Whether a file is that of a writer who may still be at work. -/
def isLiveTemporary (name : FileName) (modified : Int) (now : Nat) : Bool :=
  match Text.ofBytes? name with
  | some name =>
      occursIn ".bin.tmp.".toList name.toList && decide (now - modified.toNat < temporaryGrace)
  | none => false

/-- The ending of the files of entries. -/
def entryEnding : FileName := Text.toBytes ".bin"

/-- The name of an entry's file without its ending; other files have none. -/
def entryStem? (name : FileName) : Option FileName :=
  if entryEnding.length < name.length ∧ entryEnding.isSuffixOf name then
    some (name.take (name.length - entryEnding.length))
  else none

/-- What a collection makes of a file. -/
inductive Verdict where
  /-- It is no business of the cache. -/
  | spared
  | discarded
  /-- It is an entry in use. -/
  | kept (savedAt size : Nat)
  deriving DecidableEq, Repr

/-- What a collection makes of the contents of an entry's file. -/
def judgeEntry (policy : Policy) (now : Nat) (stem : FileName) (contents : ByteArray) : Verdict :=
  if entryLimit < contents.size then .discarded
  else
    match Header.decode? contents with
    | none => .discarded
    | some header =>
        let isForeign := match Text.ofBytes? stem with
          | some stem => stem != header.fingerprint
          | none => false
        if !header.isCurrent || isForeign || header.isExpired now policy.timeToLive then
          .discarded
        else .kept header.savedAt contents.size

/-- What a collection makes of a node in the folder. -/
def judge (policy : Policy) (now : Nat) (name : FileName) : FileNode → Verdict
  | .file contents modified =>
      match entryStem? name with
      | some stem => judgeEntry policy now stem contents
      | none => if isLiveTemporary name modified now then .spared else .discarded
  | _ => .spared

/-- The entries to give up, the oldest first, until the others fit. -/
def evicted (budget : Nat) (total : Nat) : List (FileName × Nat × Nat) → List FileName
  | [] => []
  | (name, _, size) :: rest =>
      if total ≤ budget then [] else name :: evicted budget (total - size) rest

/-- The entries in use, the oldest first. -/
def byAge (entries : List (FileName × Nat × Nat)) : List (FileName × Nat × Nat) :=
  entries.mergeSort fun a b => decide (a.2.1 ≤ b.2.1)

/-- The entries in use of a folder: their names, and when they were saved, and their sizes. -/
def inUse (policy : Policy) (now : Nat) (entries : List (FileName × FileNode)) :
    List (FileName × Nat × Nat) :=
  entries.filterMap fun (name, node) =>
    match judge policy now name node with
    | .kept savedAt size => some (name, savedAt, size)
    | _ => none

/-- The names in a folder that are out of use. -/
def outOfUse (policy : Policy) (now : Nat) (entries : List (FileName × FileNode)) :
    List FileName :=
  entries.filterMap fun (name, node) =>
    match judge policy now name node with
    | .discarded => some name
    | _ => none

/-- The bytes that the entries in use have together. -/
def usedBytes (policy : Policy) (now : Nat) (entries : List (FileName × FileNode)) : Nat :=
  (inUse policy now entries).foldl (fun total (_, _, size) => total + size) 0

/-- The names that a collection removes from the entries of a folder. -/
def collected (policy : Policy) (now : Nat) (entries : List (FileName × FileNode)) :
    List FileName :=
  outOfUse policy now entries
    ++ evicted policy.budget (usedBytes policy now entries) (byAge (inUse policy now entries))

end Cache

/-- A cache in a folder. -/
structure Cache where
  root : Path
  policy : Cache.Policy
  /-- When the last collection was. -/
  collectedAt : Nat
  deriving DecidableEq, Repr

namespace Cache

/-- The path of a file in the cache. -/
def pathOf (cache : Cache) (name : FileName) : Path := cache.root.join ⟨name⟩

/-- The path of the entry of a key. -/
def entryPath (cache : Cache) (fingerprint : String) : Path :=
  cache.pathOf (Text.toBytes (entryName fingerprint))

/-- Removes what is out of use, and then the oldest entries until the others fit. -/
def collect (cache : Cache) (tree : FileTree) (now : Nat) : Except Error FileTree :=
  match tree.node? cache.root with
  | .ok (.folder entries) =>
      .ok ((collected cache.policy now entries).foldl
        (fun tree name => (discard tree (cache.pathOf name)).2) tree)
  | .ok _ => .error (.io .notADirectory)
  | .error .notFound => .ok tree
  | .error e => .error (.io e)

/-- Opens the cache in a folder, which is made if it is missing, and collects.  Folders that were
made stay even if there is no cache in the end.
-/
def openAt (root : Path) (policy : Policy) (tree : FileTree) (now : Nat) :
    Except Error Cache × FileTree :=
  match tree.makeFolders root with
  | (.error e, tree) => (.error (.io e), tree)
  | (.ok (), tree) =>
      if tree.isFolder root then
        let cache : Cache := ⟨root, policy, now⟩
        (.ok cache, (cache.collect tree now).toOption.getD tree)
      else (.error (.notADirectory root), tree)

/-- Collects if the last time is long enough ago. -/
def collectIfDue (cache : Cache) (tree : FileTree) (now : Nat) : Cache × FileTree :=
  if now - cache.collectedAt < cache.policy.interval then (cache, tree)
  else ({ cache with collectedAt := now }, (cache.collect tree now).toOption.getD tree)

section Values

variable {α : Type} [Storable α]

/-- What is stored for a key and time.  An entry that cannot be used any more is removed; one that
belongs to another key or time is left.
-/
def lookup (cache : Cache) (tree : FileTree) (now : Nat) (key : String) (modified : Nat) :
    Option α × FileTree :=
  let fingerprint := fingerprintOf key
  let path := cache.entryPath fingerprint
  let dropped := (none, (discard tree path).2)
  match stored tree path with
  | .missing => (none, tree)
  | .unfit => dropped
  | .bytes contents =>
      match Saved.decode? contents with
      | none => dropped
      | some entry =>
          if !entry.header.isCurrent || entry.header.fingerprint != fingerprint then dropped
          else if entry.header.key != key || entry.modified != modified then (none, tree)
          else if entry.header.isExpired now cache.policy.timeToLive then dropped
          else (some entry.value, tree)

/-- The entry that is written for a key and time. -/
def entryFor (now : Nat) (key : String) (modified : Nat) (value : α) : Saved α :=
  ⟨⟨schemaVersion, programVersion, now, key, fingerprintOf key⟩, modified, value⟩

/-- Writes the entry of a value for a key and time. -/
def write (cache : Cache) (tree : FileTree) (now : Nat) (key : String) (modified : Nat)
    (value : α) : Except Error Unit × FileTree :=
  let entry := entryFor now key modified value
  match entry.encode? with
  | .error e => (.error (.encoding e), tree)
  | .ok bytes =>
      let (written, tree) :=
        tree.replace (cache.entryPath entry.header.fingerprint) bytes now
      (written.mapError .io, tree)

/-- Stores a value for a key and time.  A collection that is due follows. -/
def store (cache : Cache) (tree : FileTree) (now : Nat) (key : String) (modified : Nat)
    (value : α) : Except Error Unit × Cache × FileTree :=
  match cache.write tree now key modified value with
  | (.error e, tree) => (.error e, cache, tree)
  | (.ok (), tree) =>
      let (cache, tree) := cache.collectIfDue tree now
      (.ok (), cache, tree)

end Values

end Cache

end EarlyBreak
