import EarlyBreak.Base64
import EarlyBreak.Text.Ascii
import EarlyBreak.Text.Blank
import EarlyBreak.Url.Percent

/-! Source maps that stand in their own URL. -/

namespace EarlyBreak.SourceMap

/-- What a data URL starts with. -/
def dataMark : List Char := "data:".toList

/-- Whether a URL is a data URL. -/
def isDataUrl (url : String) : Bool := dataMark.isPrefixOf url.toList

/-- Whether the header of a data URL says that its payload is Base64. -/
def saysBase64 (header : List Char) : Bool :=
  (header.splitOn ';').any (Text.sameIgnoringAsciiCase · "base64".toList)

/-- The text in a data URL: what follows its first comma, as Base64 if the header says so and with
escapes otherwise.
-/
def dataText? (url : String) : Option String := do
  let rest ← Text.dropStart? dataMark url.toList
  let (header, payload) := Text.splitFirst ',' rest
  let payload ← payload
  let bytes ←
    if saysBase64 header then Base64.decode? (Text.trimChars Text.isBlank payload)
    else some (Url.decodeBytes (Text.toBytes (String.ofList payload)))
  Text.ofBytes? bytes

end EarlyBreak.SourceMap
