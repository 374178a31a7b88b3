import EarlyBreak.OutFiles.Scan

/-! Where the compiled files of a workspace are listed from. -/

namespace EarlyBreak

/-- A place that lists compiled files. -/
structure Repository where
  /-- The compiled files for a folder and patterns; `none` if they cannot be listed. -/
  list? : FileTree → Path → List String → Option (List CompiledFile)
  /-- Milliseconds that listing takes. -/
  duration : Nat := 0

namespace Repository

/-- The folders of the workspace, which take no time. -/
def folders : Repository where
  list? tree base patterns :=
    (OutFiles.ofPatterns patterns).toOption.map (OutFiles.scan tree base)

/-- A list that is known beforehand, or a failure. -/
def fixed (files : Option (List CompiledFile)) (duration : Nat) : Repository :=
  ⟨fun _ _ _ => files, duration⟩

end Repository

end EarlyBreak
