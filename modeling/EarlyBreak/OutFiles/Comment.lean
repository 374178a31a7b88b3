import EarlyBreak.Text.Blank

/-! The comment in which a compiled file names its source map. -/

namespace EarlyBreak.OutFiles

/-- The two starts of the comment. -/
def commentMarks : List (List Char) :=
  ["//# sourceMappingURL=".toList, "//@ sourceMappingURL=".toList]

/-- The source map URL that a line declares: the first word after the comment's mark. -/
def declaredMap? (line : String) : Option String :=
  let trimmed := Text.trimChars Text.isBlank line.toList
  ((commentMarks.findSome? (Text.dropStart? · trimmed)).bind Text.firstWord?).map String.ofList

end EarlyBreak.OutFiles
