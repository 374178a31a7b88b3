import EarlyBreak.Url.Basic

/-! Reading URLs, alone or against a base.  The text is first cut at its query and fragment;
the rest is a scheme, an authority, and a path that is walked segment by segment.
-/

namespace EarlyBreak.Url

/-- Whether a character is a tab or a line end, which URLs may hold anywhere. -/
def isBreak (c : Char) : Bool := c == '\t' || c == '\n' || c == '\r'

/-- A text without tabs and line ends. -/
def unbroken (s : List Char) : List Char := s.filter (!isBreak ·)

/-- A text without controls and spaces around it. -/
def strip (s : List Char) : List Char := Text.trimChars (·.toNat ≤ 0x20) s

/-- A URL text cut at the first `#` and, before that, the first `?`. -/
structure Reference where
  /-- May still hold tabs and line ends. -/
  main : List Char
  query : Option (List Char)
  fragment : Option (List Char)

/-- Cuts a text into its reference parts. -/
def Reference.ofText (s : List Char) : Reference :=
  let (beforeFragment, fragment) := Text.splitFirst '#' s
  let (main, query) := Text.splitFirst '?' beforeFragment
  ⟨main, query.map unbroken, fragment.map unbroken⟩

/-- Whether a character may stand in a scheme after its first letter. -/
def isSchemeChar (c : Char) : Bool :=
  Text.isAsciiAlphanumeric c || c == '+' || c == '-' || c == '.'

/-- The lower-case scheme at the start of a text and what follows its colon. -/
def scheme? (s : List Char) : Option (List Char × List Char) :=
  match s.span isSchemeChar with
  | (first :: more, ':' :: rest) =>
      if Text.isAsciiLetter first then some ((first :: more).map Text.lowerAscii, rest) else none
  | _ => none

/-- Whether a segment is a letter and a colon. -/
def isDrive (segment : List Char) : Bool :=
  match segment with
  | [letter, ':'] => Text.isAsciiLetter letter
  | _ => false

/-- Whether a segment is a letter and a colon or bar. -/
def isDriveLike (segment : List Char) : Bool :=
  match segment with
  | [letter, mark] => Text.isAsciiLetter letter && (mark == ':' || mark == '|')
  | _ => false

/-- Whether a segment starts like a drive, ending there or going on with a backslash. -/
def startsLikeDrive (segment : List Char) : Bool :=
  match segment with
  | letter :: mark :: rest =>
      Text.isAsciiLetter letter && (mark == ':' || mark == '|')
        && (rest.isEmpty || rest.head? == some '\\')
  | _ => false

/-- Whether a reference starts with a segment that is like a drive. -/
def startsWithDrive (s : List Char) : Bool := isDriveLike (s.takeWhile (· != '/'))

/-- Whether a segment means the same place; a dot may be escaped. -/
def isSingleDot (segment : List Char) : Bool :=
  ["."].contains (String.ofList segment)
    || ["%2e"].contains (String.ofList (segment.map Text.lowerAscii))

/-- Whether a segment means the place above; each dot may be escaped. -/
def isDoubleDot (segment : List Char) : Bool :=
  ["..", "%2e.", ".%2e", "%2e%2e"].contains (String.ofList (segment.map Text.lowerAscii))

/-- What follows a drive in a segment, when a tab or line end stands right behind the drive and
something else comes after.
-/
def behindBrokenDrive? (segment : List Char) : Option (List Char) :=
  match segment.dropWhile isBreak with
  | [] => none
  | letter :: after =>
      match after.dropWhile isBreak with
      | ':' :: rest =>
          if Text.isAsciiLetter letter && (rest.head?.any isBreak) && unbroken rest != [] then
            some (unbroken rest)
          else none
      | _ => none

/-- The segments that a slash has closed, the last one first.  The first segment of every path
is the empty one before its leading slash.
-/
abbrev Trail := List (List Char)

/-- A trail without its last segment.  The segment before the leading slash stays, and so does
one that starts like a drive.
-/
def Trail.up : Trail → Trail
  | segment :: above :: rest =>
      if startsLikeDrive segment then segment :: above :: rest else above :: rest
  | trail => trail

/-- The text of a trail, each segment with its slash. -/
def Trail.render (trail : Trail) : List Char := trail.reverse.flatMap (· ++ ['/'])

/-- A path walk's result: the path, and whether a drive took the place of the host. -/
structure Walk where
  path : List Char
  sawDrive : Bool

/-- How a segment is written: escaped, and with a colon if it is the drive of a file path. -/
def writeSegment (family : Family) (trail : Trail) (segment : List Char) : List Char :=
  if family = .file ∧ trail = [[]] ∧ isDriveLike segment then segment.take 1 ++ [':']
  else encodeText .path segment

/-- A segment as it is walked: without tabs and line ends, or, if one of these closes a drive at
the start of a file path, the drive and what follows it.
-/
inductive Step where
  | plain (segment : List Char)
  | drive (letter : Char) (rest : List Char)

/-- The step that a segment makes from a trail on. -/
def Step.of (family : Family) (trail : Trail) (segment : List Char) : Step :=
  match unbroken segment, behindBrokenDrive? segment with
  | letter :: more, some rest =>
      if family = .file ∧ trail = [[]] then drive letter rest else plain (letter :: more)
  | segment, _ => plain segment

/-- Walks the segments of a path from a trail on.  The last segment is the one no slash closes.
What follows a drive that a tab or line end closes is taken as it is, dots and all.
-/
def walk (family : Family) (trail : Trail) (sawDrive : Bool) : List (List Char) → Walk
  | [] => ⟨trail.render, sawDrive⟩
  | text :: rest =>
      match Step.of family trail text with
      | .drive letter behind =>
          let trail : Trail := [letter, ':'] :: trail
          let written := encodeText .path behind
          match rest with
          | [] => ⟨trail.render ++ written, sawDrive⟩
          | next :: more => walk family (written :: trail) sawDrive (next :: more)
      | .plain segment =>
          if isDoubleDot segment then walk family trail.up sawDrive rest
          else if isSingleDot segment then walk family trail sawDrive rest
          else
            let drive := sawDrive || (family = .file && trail = [[]] && isDriveLike segment)
            let written := writeSegment family trail segment
            match rest with
            | [] => ⟨trail.render ++ written, drive⟩
            | next :: more => walk family (written :: trail) drive (next :: more)

/-- Walks a text of segments.  File paths keep a single leading slash. -/
def walkText (family : Family) (trail : Trail) (s : List Char) : Walk :=
  let result := walk family trail false (s.splitOn '/')
  if family = .file then
    { result with path := '/' :: result.path.dropWhile (· == '/') }
  else result

/-- Backslashes as slashes, where the family takes them so. -/
def Family.slashes (family : Family) (s : List Char) : List Char :=
  if family.isSpecial then s.map fun c => if c = '\\' then '/' else c else s

/-- The written form of a query. -/
def Family.writeQuery (family : Family) (query : List Char) : List Char :=
  encodeText (if family.isSpecial then .specialQuery else .query) query

/-- The written form of a fragment. -/
def writeFragment (fragment : List Char) : List Char := encodeText .fragment fragment

/-- User name and password as written, with their `@`. -/
def writeCredentials (s : List Char) : List Char :=
  let (user, password) := Text.splitFirst ':' s
  let user := encodeText .credentials user
  match password.getD [] with
  | [] => if user.isEmpty then [] else user ++ ['@']
  | password => user ++ ':' :: encodeText .credentials password ++ ['@']

/-- The host text before a port, whose colon does not stand in brackets. -/
def spanHost : Bool → List Char → List Char × List Char
  | _, [] => ([], [])
  | inBrackets, c :: rest =>
      if c = ':' ∧ !inBrackets then ([], c :: rest)
      else
        let inBrackets := if c = '[' then true else if c = ']' then false else inBrackets
        let (host, after) := spanHost inBrackets rest
        (c :: host, after)

/-- The port a text spells, without it if it is the default; `none` if it is no port. -/
def port? (scheme : List Char) (digits : List Char) : Option (Option Nat) :=
  if digits.isEmpty then some none
  else do
    let n ← Text.decimal? digits
    if 65535 < n then none
    else if defaultPorts.lookup scheme = some n then return none
    else return some n

/-- The authority of a URL that is not a file URL, and what follows it before the next slash: a
backslash ends the port of every scheme.
-/
def authority? (family : Family) (scheme s : List Char) : Option (Authority × List Char) := do
  let (credentials, hostAndPort) :=
    match Text.splitLast? '@' s with
    | some (before, after) => (writeCredentials before, after)
    | none => ([], s)
  let (hostText, afterHost) := spanHost false hostAndPort
  let (portText, rest) := afterHost.span (· != '\\')
  let port ← match portText with
    | [] => some none
    | _ :: digits => port? scheme digits
  if hostText.isEmpty then
    if family.isSpecial || !credentials.isEmpty || !afterHost.isEmpty then none
    else return (⟨[], none, none⟩, rest)
  else
    let host ← if family.isSpecial then Host.ofDomain? hostText else Host.ofOpaque? hostText
    return (⟨credentials, some host, port⟩, rest)

/-- The URL that follows `scheme://`.  A lone `@` is an authority only at the very end. -/
def afterSlashes? (family : Family) (scheme : List Char) (reference : Reference)
    (s : List Char) : Option Url := do
  let (authorityText, rest) := s.span (· != '/')
  let isLast := rest.isEmpty && reference.query.isNone && reference.fragment.isNone
  if authorityText = ['@'] ∧ !isLast then none
  let (authority, behind) ← authority? family scheme authorityText
  let walked :=
    match behind ++ rest with
    | [] => if family.isSpecial then walkText family [[]] [] else ⟨[], false⟩
    | '/' :: segments => walkText family [[]] segments
    | segments => walkText family [[]] segments
  return {
    scheme
    authority := some authority
    path := walked.path
    query := reference.query.map family.writeQuery
    fragment := reference.fragment.map writeFragment }

/-- The text `localhost`, which stands for no host in file URLs. -/
def localhost : List Char := "localhost".toList

/-- The host of a file URL; `some none` is no host. -/
def fileHost? (s : List Char) : Option (Option Host) :=
  if s.isEmpty then some none
  else (Host.ofDomain? s).map fun host =>
    if host = .name localhost then none else some host

/-- A file URL with the given host and walked path. -/
def fileUrl (host : Option Host) (path : List Char) (reference : Reference) : Url :=
  { scheme := fileScheme
    authority := some ⟨[], host, none⟩
    path
    query := reference.query.map Family.file.writeQuery
    fragment := reference.fragment.map writeFragment }

/-- The host of a base URL. -/
def host? (url : Url) : Option Host := url.authority.bind (·.host)

/-- The segments of a path that starts with a slash, the first one being empty. -/
def pathSegments (url : Url) : List (List Char) := url.path.splitOn '/'

/-- The trail that a relative file path continues, and the text to walk from there.  The last
segment of the base goes, unless it is a drive.  Below the drive at the start of a path the text
is a segment of its own; to any other drive it is joined, but dots leave that drive as it is.
-/
def fileStart (base : Url) (s : List Char) : Trail × List Char :=
  match base.pathSegments.reverse with
  | last :: above =>
      if !isDrive last then (above, s)
      else
        let (first, rest) := Text.splitFirst '/' s
        if above == [[]] || isSingleDot first then (last :: above, s)
        else if isDoubleDot first then
          match rest with
          | none => (above, last)
          | some rest => (last :: above, rest)
        else (above, last ++ s)
  | [] => ([[]], s)

/-- A reference that starts with one slash keeps the drive or else the host of its base. -/
def fileFromRoot (base : Option Url) (reference : Reference) (s : List Char) : Url :=
  let plain := fileUrl none (walkText .file [] s).path reference
  match base with
  | none => plain
  | some base =>
      if startsWithDrive (s.drop 1) then plain
      else
        match base.pathSegments with
        | _ :: first :: _ =>
            if isDrive first then
              fileUrl none (walkText .file [first, []] (s.drop 1)).path reference
            else fileUrl base.host? (walkText .file [] s).path reference
        | _ => fileUrl base.host? (walkText .file [] s).path reference

/-- The file URL of a reference whose backslashes are slashes already. -/
def file? (base : Option Url) (reference : Reference) (s : List Char) : Option Url :=
  match s with
  | '/' :: '/' :: rest => do
      let (hostText, path) := rest.span (· != '/')
      if isDriveLike hostText then
        return fileUrl none (walkText .file [[]] rest).path reference
      else
        match ← fileHost? (unbroken hostText) with
        | none => return fileUrl none (walkText .file [[]] path).path reference
        | some host =>
            let walked := walkText .file [[]] (path.drop 1)
            return fileUrl (if walked.sawDrive then none else some host) walked.path reference
  | '/' :: _ => some (fileFromRoot base reference s)
  | s =>
      match base with
      | none => some (fileUrl none (walkText .file [[]] s).path reference)
      | some base =>
          if s.isEmpty then
            some { base with
              query := match reference.query with
                | some query => some (Family.file.writeQuery query)
                | none => base.query
              fragment := reference.fragment.map writeFragment }
          else if startsWithDrive s then
            some (fileUrl none (walkText .file [[]] s).path reference)
          else some { base with
            path := (walkText .file (fileStart base s).1 (fileStart base s).2).path
            query := reference.query.map Family.file.writeQuery
            fragment := reference.fragment.map writeFragment }

/-- Whether a character counts as a slash at the start of a relative reference. -/
def isAnySlash (c : Char) : Bool := c == '/' || c == '\\'

/-- A reference without scheme against a base that is not a file URL.  Two slashes in front are
the mark of an authority; with backslashes among them, all slashes in front are.
-/
def relative? (family : Family) (base : Url) (reference : Reference) (written : List Char) :
    Option Url :=
  let query := reference.query.map family.writeQuery
  let fragment := reference.fragment.map writeFragment
  match written with
  | [] => some { base with query := if reference.query.isSome then query else base.query, fragment }
  | first :: rest =>
      if isAnySlash first then
        if rest.head?.any isAnySlash then
          let afterMark :=
            match written with
            | '/' :: '/' :: after => after
            | written => written.dropWhile isAnySlash
          afterSlashes? family base.scheme reference (family.slashes afterMark)
        else
          let path := (walkText family [[]] (family.slashes rest)).path
          some { base with path, query, fragment }
      else
        let trail := match base.pathSegments.reverse with
          | _ :: root :: above => root :: above
          | _ => [[]]
        let path := (walkText family trail (family.slashes written)).path
        some { base with path, query, fragment }

/-- The URL of a scheme that is neither `file` nor hosted. -/
def other? (scheme : List Char) (reference : Reference) (s : List Char) : Option Url :=
  match s with
  | '/' :: '/' :: rest => afterSlashes? .other scheme reference rest
  | _ =>
      let path :=
        match s with
        | '/' :: rest => (walkText .other [[]] rest).path
        | s => encodeText .controls s
      some {
        scheme
        authority := none
        path
        query := reference.query.map Family.other.writeQuery
        fragment := reference.fragment.map writeFragment }

/-- The path text of a file URL with slashes for backslashes.  Of its tabs and line ends only
those that close a drive are left, each run as one tab.
-/
def filePathText (s : List Char) : List Char :=
  ['/'].intercalate (((Family.file.slashes s).splitOn '/').map fun segment =>
    match behindBrokenDrive? segment with
    | some rest => (unbroken segment).take 2 ++ '\t' :: rest
    | none => unbroken segment)

/-- The URL that a text spells, seen from a base if there is one. -/
def parseFrom? (base : Option Url) (s : List Char) : Option Url :=
  let reference := Reference.ofText (strip s)
  let main := unbroken reference.main
  match scheme? main with
  | some (scheme, rest) =>
      match Family.ofScheme scheme with
      | .file =>
          let path := (Text.splitFirst ':' reference.main).2.getD []
          file? (base.filter (·.scheme = fileScheme)) reference (filePathText path)
      | .hosted =>
          let slashes := (rest.takeWhile isAnySlash).length
          let afterMark := Family.hosted.slashes (rest.dropWhile isAnySlash)
          match base with
          | some base =>
              if slashes < 2 ∧ base.scheme = scheme then relative? .hosted base reference rest
              else afterSlashes? .hosted scheme reference afterMark
          | none => afterSlashes? .hosted scheme reference afterMark
      | .other => other? scheme reference rest
  | none => do
      let base ← base
      if main.isEmpty && reference.query.isNone && reference.fragment.isSome then
        return { base with fragment := reference.fragment.map writeFragment }
      else if base.isOpaque then none
      else
        match Family.ofScheme base.scheme with
        | .file => file? (some base) reference (filePathText reference.main)
        | family => relative? family base reference main

/-- The URL that a text spells. -/
def parse? (s : String) : Option Url := parseFrom? none s.toList

/-- The URL that a text spells seen from this one. -/
def join? (base : Url) (s : String) : Option Url := parseFrom? (some base) s.toList

end EarlyBreak.Url
