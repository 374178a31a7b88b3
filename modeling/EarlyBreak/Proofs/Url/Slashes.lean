import EarlyBreak.Proofs.Path.SourceKeys
import EarlyBreak.Proofs.Url.FilePaths
import Mathlib.Data.List.TakeDrop

/-! Backslashes in texts that are read as URLs.  What stands behind the scheme of a file URL is read
with slashes for its backslashes, so it makes no difference to the path of the URL when they are
slashes before.  A canonical form starts with a slash or has no path as a URL, and so it is its own
canonical form.
-/

namespace EarlyBreak

open OutFiles (slashed slashed_append mem_slashed slashed_eq_self slashed_slashed)

namespace Text

variable {separator : Char} {p : Char → Bool}

/-- Splitting at another separator may come before or after writing slashes. -/
theorem splitFirst_slashed (noSlash : separator ≠ '/') (noBackslash : separator ≠ '\\')
    (text : List Char)
    : splitFirst separator (slashed text)
      = (slashed (splitFirst separator text).1, (splitFirst separator text).2.map slashed) := by
  induction text with
  | nil => rfl
  | cons c text ih =>
      have cons : slashed (c :: text) = (if c = '\\' then '/' else c) :: slashed text := rfl
      have same : (if c = '\\' then '/' else c) = separator ↔ c = separator := by
        split
        case isTrue backslash => simp [backslash, noSlash.symm, noBackslash.symm]
        case isFalse => exact Iff.rfl
      rw [cons, splitFirst, splitFirst, ih]
      simp only [same]
      split
      case isTrue => rfl
      case isFalse => rfl

theorem trimEnd_slashed (alike : p '/' = p '\\') (text : List Char)
    : trimEnd p (slashed text) = slashed (trimEnd p text) := by
  have before : (p ∘ fun c => if c = '\\' then '/' else c) = p := by
    funext c
    by_cases backslash : c = '\\'
    · simp [backslash, alike]
    · simp [backslash]
  simp only [trimEnd, slashed, ← List.map_reverse, List.dropWhile_map, before]

end Text

namespace Url

variable {scheme text : List Char}

/-- The texts that are read as file URLs, by their scheme in any case. -/
theorem exists_fileScheme
    (isFile : Text.sameIgnoringAsciiCase (text.take 5) "file:".toList = true)
    : ∃ scheme rest, text = scheme ++ ':' :: rest ∧ scheme.map Text.lowerAscii = fileScheme := by
  have lower : (text.take 5).map Text.lowerAscii = fileScheme ++ [':'] := beq_iff_eq.mp isFile
  obtain ⟨scheme, colon, cut, isScheme, isColon⟩ := List.map_eq_append_iff.mp lower
  obtain ⟨c, rfl, same⟩ := List.map_eq_singleton_iff.mp isColon
  obtain rfl := Text.eq_of_lowerAscii_eq same (by decide)
  refine ⟨scheme, text.drop 5, ?_, isScheme⟩
  calc text
    _ = text.take 5 ++ text.drop 5 := (List.take_append_drop 5 text).symm
    _ = scheme ++ ':' :: text.drop 5 := by rw [cut, List.append_assoc, List.singleton_append]

theorem isAsciiLetter_of_fileScheme (isFile : scheme.map Text.lowerAscii = fileScheme)
    : ∀ c ∈ scheme, Text.isAsciiLetter c = true := by
  have letters : ∀ c ∈ fileScheme, Text.isAsciiLetter c = true := List.all_eq_true.mp (by decide)
  intro c member
  exact Text.isAsciiLetter_of_lowerAscii (letters _ (isFile ▸ List.mem_map_of_mem member))

/-- The scheme of a file URL is read in any case. -/
theorem scheme?_fileScheme (isFile : scheme.map Text.lowerAscii = fileScheme) (rest : List Char)
    : scheme? (scheme ++ ':' :: rest) = some (fileScheme, rest) := by
  have letters := isAsciiLetter_of_fileScheme isFile
  have inScheme : ∀ c ∈ scheme, isSchemeChar c = true := by
    intro c member
    simp [isSchemeChar, Text.isAsciiAlphanumeric, letters c member]
  have cut : (scheme ++ ':' :: rest).span isSchemeChar = (scheme, ':' :: rest) := by
    rw [List.span_eq_takeWhile_dropWhile, List.takeWhile_append_of_pos inScheme,
      List.dropWhile_append_of_pos inScheme]
    simp [isSchemeChar, Text.isAsciiAlphanumeric, Text.isAsciiLetter, Text.isAsciiDigit]
  cases scheme with
  | nil => cases isFile
  | cons first more =>
      rw [scheme?, cut]
      simp only [letters first List.mem_cons_self, if_true, isFile]

theorem visible_fileScheme (isFile : scheme.map Text.lowerAscii = fileScheme)
    : ∀ c ∈ scheme, 0x20 < c.toNat := by
  intro c member
  have codes := Text.isAsciiLetter_iff.mp (isAsciiLetter_of_fileScheme isFile c member)
  omega

theorem not_mem_fileScheme (isFile : scheme.map Text.lowerAscii = fileScheme) {other : Char}
    (noLetter : Text.isAsciiLetter other = false)
    : other ∉ scheme := by
  intro member
  rw [isAsciiLetter_of_fileScheme isFile other member] at noLetter
  cases noLetter

/-- Only the end of a file URL is trimmed, as its scheme is visible. -/
theorem strip_fileScheme (isFile : scheme.map Text.lowerAscii = fileScheme) (rest : List Char)
    : strip (scheme ++ ':' :: rest) = scheme ++ ':' :: Text.trimEnd (·.toNat ≤ 0x20) rest := by
  have starts : Text.trimStart (·.toNat ≤ 0x20) (scheme ++ ':' :: rest)
      = scheme ++ ':' :: rest := by
    cases scheme with
    | nil => cases isFile
    | cons first more =>
        have large := visible_fileScheme isFile first List.mem_cons_self
        refine List.dropWhile_cons_of_neg ?_
        simp only [decide_eq_true_eq]
        omega
  rw [strip, Text.trimChars, starts]
  exact Text.trimEnd_append_cons (by decide) scheme rest

/-- Query and fragment are cut off behind the scheme. -/
theorem splitFirst_fileScheme (isFile : scheme.map Text.lowerAscii = fileScheme) {separator : Char}
    (noLetter : Text.isAsciiLetter separator = false) (noColon : separator ≠ ':')
    (rest : List Char)
    : Text.splitFirst separator (scheme ++ ':' :: rest)
      = (scheme ++ ':' :: (Text.splitFirst separator rest).1,
          (Text.splitFirst separator rest).2) := by
  have absent : separator ∉ scheme ++ [':'] := by
    rw [List.mem_append, List.mem_singleton, not_or]
    exact ⟨not_mem_fileScheme isFile noLetter, noColon⟩
  have whole := Text.splitFirst_append_of_not_mem absent rest
  simpa only [List.append_assoc, List.singleton_append] using whole

theorem unbroken_fileScheme (isFile : scheme.map Text.lowerAscii = fileScheme) (rest : List Char)
    : unbroken (scheme ++ ':' :: rest) = scheme ++ ':' :: unbroken rest := by
  have same := unbroken_of_visible (visible_fileScheme isFile)
  rw [unbroken] at same ⊢
  rw [List.filter_append, same]
  rfl

/-- Only what stands behind its scheme says where a file URL points to; query and fragment are cut
off from that.
-/
theorem parseFrom?_fileScheme (isFile : scheme.map Text.lowerAscii = fileScheme) (rest : List Char)
    : ∃ reference,
        parseFrom? none (scheme ++ ':' :: rest)
          = file? none reference
              (filePathText (Reference.ofText (Text.trimEnd (·.toNat ≤ 0x20) rest)).main) := by
  have colon (rest : List Char)
      : Text.splitFirst ':' (scheme ++ ':' :: rest) = (scheme, some rest) :=
    Text.splitFirst_append (not_mem_fileScheme isFile (by decide)) rest
  have family : Family.ofScheme fileScheme = .file := rfl
  simp only [parseFrom?, strip_fileScheme isFile, Reference.ofText,
    splitFirst_fileScheme isFile (by decide : _ = false) (by decide : '#' ≠ ':'),
    splitFirst_fileScheme isFile (by decide : _ = false) (by decide : '?' ≠ ':'),
    unbroken_fileScheme isFile, scheme?_fileScheme isFile, family, colon, Option.getD_some,
    Option.filter_none]
  exact ⟨_, rfl⟩

/-- Query and fragment make no difference to where a file URL points to. -/
theorem bind_toPath?_file? (reference other : Reference) (s : List Char)
    : (file? none reference s).bind toPath? = (file? none other s).bind toPath? := by
  unfold file?
  split
  case h_1 rest =>
    simp only
    split
    case isTrue => rfl
    case isFalse =>
      cases fileHost? (unbroken (rest.span (· != '/')).1) with
      | none => rfl
      | some host => cases host <;> rfl
  case h_2 => rfl
  case h_3 => rfl

/-- A file URL is read alike with slashes and with backslashes. -/
theorem filePathText_slashed (s : List Char) : filePathText (slashed s) = filePathText s := by
  have slashes : Family.file.slashes (slashed s) = Family.file.slashes s := slashed_slashed s
  rw [filePathText, slashes, filePathText]

/-- A file URL points to the same path with slashes for the backslashes behind its scheme. -/
theorem parseFrom?_slashed (isFile : scheme.map Text.lowerAscii = fileScheme) (rest : List Char)
    : (parseFrom? none (scheme ++ ':' :: slashed rest)).bind toPath?
      = (parseFrom? none (scheme ++ ':' :: rest)).bind toPath? := by
  have main (text : List Char)
      : (Reference.ofText (slashed text)).main = slashed (Reference.ofText text).main := by
    simp only [Reference.ofText, Text.splitFirst_slashed (by decide : '#' ≠ '/') (by decide),
      Text.splitFirst_slashed (by decide : '?' ≠ '/') (by decide)]
  obtain ⟨reference, read⟩ := parseFrom?_fileScheme isFile rest
  obtain ⟨other, readSlashed⟩ := parseFrom?_fileScheme isFile (slashed rest)
  rw [read, readSlashed, Text.trimEnd_slashed (by decide), main, filePathText_slashed]
  exact bind_toPath?_file? other reference _

/-- The path of a URL starts at the root. -/
theorem head?_toPath? {url : Url} {p : Path} (points : url.toPath? = some p)
    : p.bytes.head? = some Path.slash := by
  unfold toPath? at points
  split at points
  case h_1 segments path =>
    simp only at points
    split at points
    case isTrue =>
      obtain rfl := Option.some.inj points
      cases cut : segments.splitOn '/' with
      | nil => exact absurd cut (List.splitOn_ne_nil '/' segments)
      | cons first others =>
          rw [List.flatMap_cons]
          split <;> rfl
    case isFalse => cases points
  case h_2 => cases points

end Url

namespace ScriptUrl

variable {text : List Char} {url : String} {p : Path}

theorem filePath?_ofList (text : List Char)
    : filePath? (String.ofList text)
      = if Text.sameIgnoringAsciiCase (text.take 5) "file:".toList then
          (Url.parseFrom? none text).bind Url.toPath?
        else none := by
  have same : (String.ofList text).toList = text := String.toList_ofList
  rw [filePath?, Url.parse?, same]

/-- The start of a file URL has neither slashes nor backslashes. -/
theorem isFile_slashed (text : List Char)
    : Text.sameIgnoringAsciiCase (slashed text) "file:".toList
      = Text.sameIgnoringAsciiCase text "file:".toList := by
  have foreign {c : Char} {text : List Char} (lower : Text.lowerAscii c ∉ "file:".toList)
      (member : c ∈ text)
      : Text.sameIgnoringAsciiCase text "file:".toList = false := by
    rw [Text.sameIgnoringAsciiCase, beq_eq_false_iff_ne]
    intro same
    have isFile : "file:".toList.map Text.lowerAscii = "file:".toList := by decide
    rw [isFile] at same
    exact lower (same ▸ List.mem_map_of_mem member)
  by_cases backslash : '\\' ∈ text
  · have slash : '/' ∈ slashed text := List.mem_map.mpr ⟨'\\', backslash, rfl⟩
    rw [foreign (by decide) backslash, foreign (by decide) slash]
  · rw [slashed_eq_self backslash]

/-- What is read as the URL of a file has the same path with slashes for its backslashes. -/
theorem filePath?_slashed (text : List Char)
    : filePath? (String.ofList (slashed text)) = filePath? (String.ofList text) := by
  have start : (slashed text).take 5 = slashed (text.take 5) := List.map_take.symm
  rw [filePath?_ofList, filePath?_ofList, start, isFile_slashed]
  split
  case isTrue isFile =>
    obtain ⟨scheme, rest, rfl, isScheme⟩ := Url.exists_fileScheme isFile
    have letters := Url.isAsciiLetter_of_fileScheme isScheme
    have plain : '\\' ∉ scheme := fun member => absurd (letters _ member) (by decide)
    have whole : slashed (scheme ++ ':' :: rest) = scheme ++ ':' :: slashed rest := by
      rw [slashed_append, slashed_eq_self plain]
      rfl
    rw [whole]
    exact Url.parseFrom?_slashed isScheme rest
  case isFalse => rfl

/-- A drive is not the start of a file URL. -/
theorem filePath?_lowerDrive (text : List Char)
    : filePath? (String.ofList (lowerDrive text)) = filePath? (String.ofList text) := by
  rcases lowerDrive_cases text with same | ⟨letter, rest, rfl, lowered, -⟩
  · rw [same]
  · have noUrl (letter : Char) : filePath? (String.ofList (letter :: ':' :: rest)) = none := by
      have second : Text.lowerAscii ':' ≠ 'i' := by decide
      rw [filePath?_ofList, if_neg]
      rw [Text.sameIgnoringAsciiCase, beq_iff_eq]
      intro same
      exact second (List.cons.inj (List.cons.inj same).2).1
    rw [lowered, noUrl, noUrl]

/-- A file URL names one path with slashes and with backslashes. -/
theorem filePath?_forwardSlashes (text : List Char)
    : filePath? (String.ofList (forwardSlashes text)) = filePath? (String.ofList text) := by
  rw [forwardSlashes_eq, filePath?_lowerDrive, filePath?_slashed]

theorem forwardSlashes_forwardSlashes (text : List Char)
    : forwardSlashes (forwardSlashes text) = forwardSlashes text := by
  have absent : '\\' ∉ lowerDrive (slashed text) :=
    backslash_not_mem_lowerDrive fun member => (mem_slashed member).1 rfl
  rw [forwardSlashes_eq, forwardSlashes_eq, slashed_eq_self absent, lowerDrive_lowerDrive]

theorem forwardSlashes_slash_cons (rest : List Char)
    : forwardSlashes ('/' :: rest) = '/' :: slashed rest := by
  have whole : slashed ('/' :: rest) = '/' :: slashed rest := rfl
  rw [forwardSlashes_eq, whole]
  rcases lowerDrive_cases ('/' :: slashed rest) with same | ⟨letter, _, drive, _, isLetter⟩
  · exact same
  · obtain ⟨rfl, -⟩ := List.cons.inj drive
    exact absurd isLetter (by decide)

theorem toList_canonical (url : String)
    : (canonical url).toList
      = forwardSlashes ((filePath? url).elim url.toList fun p => p.text.toList) := by
  rw [canonical, foldCase, String.toList_ofList]
  cases filePath? url <;> rfl

/-- A canonical form is never read as a file URL: it is a path from the root, or what it comes from
is not read as one either.
-/
theorem filePath?_canonical (url : String) : filePath? (canonical url) = none := by
  cases read : filePath? url with
  | none =>
      have text := toList_canonical url
      rw [read, Option.elim_none] at text
      rw [← String.ofList_toList (s := canonical url), text, filePath?_forwardSlashes,
        String.ofList_toList, read]
  | some p =>
      have reads : (Url.parse? url).bind Url.toPath? = some p := by
        rw [filePath?] at read
        split at read
        case isTrue => exact read
        case isFalse => cases read
      obtain ⟨parsed, -, points⟩ := Option.bind_eq_some_iff.mp reads
      obtain ⟨rest, bytes⟩ := List.head?_eq_some_iff.mp (Url.head?_toPath? points)
      have rooted : p.text.toList = '/' :: Text.replaceBroken rest := by
        rw [Path.text, Text.ofBytesLossy_eq, String.toList_ofList, bytes]
        exact Text.replaceBroken_ascii (by decide : '/'.toNat < 128) rest
      have text := toList_canonical url
      rw [read, Option.elim_some, rooted, forwardSlashes_slash_cons] at text
      exact Url.filePath?_of_slash text

/-- A canonical form has neither the scheme of files nor a backslash, so it is its own. -/
theorem canonical_canonical (url : String) : canonical (canonical url) = canonical url := by
  rw [← String.toList_inj, toList_canonical, filePath?_canonical, Option.elim_none,
    toList_canonical, forwardSlashes_forwardSlashes]

end ScriptUrl

end EarlyBreak
