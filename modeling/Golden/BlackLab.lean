/-
  Golden.BlackLab
  ────────────────────────────────
  **WHAT VARIES IN A BLACKLAB SERVER RESPONSE.**

  Build times, versions, index timestamps, the cache status and search timings
  differ from run to run; `spec` names them.  The value of `fromInputFile`
  is kept, but reduced to its file name, since the directories of a corpus
  differ from machine to machine:

      dropDirectory "/data/corpus/PBsve430.xml" under fromInputFile  =  "PBsve430.xml"
-/
import Golden.Sanitize

namespace Golden.BlackLab

/-! ## §1. The mask. -/

/-- The field with the path of an input document. -/
def fromInputFile : String := "fromInputFile"

/-- A field of a spec that is replaced. -/
def varies (name : String) : Value × Value := (.text name, .bool true)

/-- A field of a spec that holds a nested spec. -/
def within (name : String) (fields : Fields) : Value × Value := (.text name, .ofFields fields)

/-- The spec of what varies in a response.  With `removeParameters` the parameters of a search are
replaced as well, so that different requests with equal results compare equal. -/
def spec (removeParameters : Bool) : Value :=
  .ofFields [
    varies "blacklabBuildTime",
    varies "blacklabVersion",
    within "indices" [within "test" [varies "timeModified"]],
    (.text "cacheStatus", .action .delete),
    within "versionInfo" [
      varies "blacklabBuildTime",
      varies "blacklabVersion",
      varies "blackLabBuildTime",
      varies "blackLabVersion",
      varies "indexFormat",
      varies "timeCreated",
      varies "timeModified"],
    within "metadataFields" [within fromInputFile [varies "fieldValues"]],
    within "summary"
      ([varies "searchTime", varies "countTime"] ++
        if removeParameters then [varies "searchParam"] else []),
    varies "timeModified"]

/-- The mask of what varies in a response. -/
def mask (removeParameters : Bool) : Mask := Mask.compile (spec removeParameters)

/-! ## §2. File names. -/

/-- Whether the character ends a directory name. -/
def isSeparator (c : Char) : Bool := c == '/' || c == '\\'

/-- The characters behind the last separator. -/
def lastSegment (s : List Char) : List Char :=
  (s.reverse.takeWhile (fun c => !isSeparator c)).reverse

/-- The characters up to the last separator and with it. -/
def directoryPart (s : List Char) : List Char :=
  (s.reverse.dropWhile (fun c => !isSeparator c)).reverse

/-- The file name of a path.  A text without a separator, one that ends in a separator and one with
a line feed in its directory part is not a path and stays as it is. -/
def fileName (s : String) : String :=
  let cs := s.toList
  let directory := directoryPart cs
  let name := lastSegment cs
  if directory.isEmpty || name.isEmpty || directory.contains '\n' then s
  else String.ofList name

/-- The transform that reduces a path under `fromInputFile` to its file name. -/
def dropDirectory (c : Call) : Value :=
  match c.value, c.key with
  | .text s, some (.text k) => if k = fromInputFile then .text (fileName s) else .text s
  | v, _ => v

/-! ## §3. Responses. -/

/-- A response without what varies. -/
def sanitize (removeParameters : Bool) (response : Value) : Value :=
  sanitizeBy dropDirectory (mask removeParameters) response

end Golden.BlackLab
