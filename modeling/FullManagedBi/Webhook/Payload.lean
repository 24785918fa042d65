import FullManagedBi.Lib.Cut
import FullManagedBi.Lib.Json
import FullManagedBi.Lib.OrderedMap

/-!
# The body of a webhook

`extractEncryptedEventData` of `src/webhook/payload.mjs`, with the scanner of multipart bodies. A body is a list of
bytes; where the source keeps an offset into it, there are the bytes from the offset on. The loop of the scanner runs
for a number of rounds, and is `none` where they do not suffice. `JSON.parse` and `URLSearchParams` are parameters, as
is the decoding of bytes that are not the bytes of a text.
-/

namespace FullManagedBi.Webhook

open Lib

/-- The builtins of the engine that a body is read with. -/
structure BodyBuiltins where
  decode : List UInt8 → String
  decode_utf8 : ∀ text, decode (utf8 text) = String.ofList text
  letters : CaseBuiltins
  parseJson : String → Option Json
  formValues : String → String → List String

def bodyError {α : Type} (message : String) : Except JsError α := .error { message }

/-! ## Parameters -/

/-- The value of a parameter, without the quotes around it. -/
def unquote (item : String) : String :=
  match item.toList with
  | '"' :: rest => if ('"' :: rest).getLast? = some '"' then String.ofList rest.dropLast else item
  | _ => item

def readParameter (B : BodyBuiltins) (parameter : List Char) : Option (String × String) :=
  match cutAt ['='] parameter with
  | none | some ([], _) => none
  | some (key, item) =>
    some (B.letters.toLowerCase (jsTrim (String.ofList key)), unquote (jsTrim (String.ofList item)))

def readParameters (B : BodyBuiltins) (parameters : List (List Char)) : OrderedMap String String :=
  .ofEntries (parameters.filterMap (readParameter B))

def parseContentType (B : BodyBuiltins) (value : String) : String × OrderedMap String String :=
  let parts := (jsTrim value).toList.splitOn ';'
  (B.letters.toLowerCase (String.ofList (parts.headD [])), readParameters B parts.tail)

def parseDisposition (B : BodyBuiltins) (value : Option String) : Option (OrderedMap String String) :=
  let parts := (value.getD "").toList.splitOn ';'
  if B.letters.toLowerCase (jsTrim (String.ofList (parts.headD []))) ≠ "form-data" then none
  else some (readParameters B parts.tail)

/-! ## The headers of a part -/

/-- `split('\r\n')`. -/
def splitLines : List Char → List (List Char)
  | [] => [[]]
  | '\r' :: '\n' :: rest => [] :: splitLines rest
  | c :: rest =>
    match splitLines rest with
    | [] => [[c]]
    | line :: lines => (c :: line) :: lines

def addHeader (B : BodyBuiltins) (headers : OrderedMap String String) (line : List Char) :
    Except JsError (OrderedMap String String) :=
  match cutAt [':'] line with
  | none | some ([], _) => bodyError "Webhook multipart header is malformed."
  | some (before, value) =>
    let name := B.letters.toLowerCase (jsTrim (String.ofList before))
    if (headers.get? name).isSome then bodyError "Webhook multipart header is duplicated."
    else .ok (headers.set name (jsTrim (String.ofList value)))

def readHeaders (B : BodyBuiltins) (head : List UInt8) : Except JsError (OrderedMap String String) :=
  (splitLines (B.decode head).toList).foldlM (addHeader B) .empty

/-! ## The scanner -/

def crlf : List UInt8 := [13, 10]

/-- `--`. -/
def dashes : List UInt8 := [45, 45]

structure MultipartScan where
  rest : List UInt8
  eventData : Option String := none
  partCount : Nat := 0

def requireName (disposition : Option (OrderedMap String String)) : Except JsError (OrderedMap String String × String) :=
  match disposition with
  | none => bodyError "Webhook multipart part has no name."
  | some parameters =>
    match parameters.get? "name" with
    | none => bodyError "Webhook multipart part has no name."
    | some name => if name = "" then bodyError "Webhook multipart part has no name." else .ok (parameters, name)

/-- The variable `eventData` behind a part. -/
def takeEventData (B : BodyBuiltins) (eventData : Option String) (parameters : OrderedMap String String) (name : String)
    (content : List UInt8) : Except JsError (Option String) :=
  if name = "eventData" then
    if (parameters.get? "filename").isSome ∨ eventData.isSome then
      bodyError "Webhook eventData must occur once as a scalar."
    else .ok (some (B.decode content))
  else .ok eventData

def scanPart (B : BodyBuiltins) (delimiter : List UInt8) (scan : MultipartScan) (bytes : List UInt8) :
    Except JsError MultipartScan :=
  match cutAt (crlf ++ crlf) bytes with
  | none => bodyError "Webhook multipart headers are malformed."
  | some (head, behind) => do
    let headers ← readHeaders B head
    match cutAt (crlf ++ delimiter) behind with
    | none => bodyError "Webhook multipart part is unterminated."
    | some (content, rest) =>
      refuse (32 < scan.partCount + 1) { message := "Webhook multipart body has too many parts." }
      let (parameters, name) ← requireName (parseDisposition B (headers.get? "content-disposition"))
      let eventData ← takeEventData B scan.eventData parameters name content
      return { rest, eventData, partCount := scan.partCount + 1 }

/-- The loop over the parts, for a number of rounds. -/
def scanParts (B : BodyBuiltins) (delimiter : List UInt8) :
    (rounds : Nat) → MultipartScan → Option (Except JsError (Option String))
  | 0, _ => none
  | rounds + 1, scan =>
    if dashes <+: scan.rest then
      let remainder := scan.rest.drop 2
      if remainder = [] ∨ remainder = crlf then some (.ok scan.eventData)
      else some (bodyError "Webhook multipart closing boundary is malformed.")
    else if crlf <+: scan.rest then
      match scanPart B delimiter scan (scan.rest.drop 2) with
      | .error e => some (.error e)
      | .ok next => scanParts B delimiter rounds next
    else some (bodyError "Webhook multipart boundary must use CRLF.")

def requireEventData (eventData : Option String) : Except JsError String :=
  match eventData with
  | none => bodyError "Webhook eventData is required."
  | some eventData =>
    if jsTrim eventData = "" then bodyError "Webhook eventData is required." else .ok eventData

/-- A boundary that a body cannot have. -/
def invalidBoundary (boundary : String) : Bool :=
  decide (boundary = "") || decide (200 < jsLength boundary) || boundary.toList.any fun c => c = '\r' || c = '\n'

def delimiterOf (boundary : String) : List UInt8 := dashes ++ utf8 boundary.toList

def multipartEventData (B : BodyBuiltins) (rounds : Nat) (body : List UInt8) (boundaryValue : Option String) :
    Option (Except JsError String) :=
  let boundary := jsTrim (boundaryValue.getD "")
  if invalidBoundary boundary then some (bodyError "Webhook multipart boundary is invalid.")
  else if delimiterOf boundary <+: body then
    (scanParts B (delimiterOf boundary) rounds { rest := body.drop (delimiterOf boundary).length }).map
      fun scanned => scanned >>= requireEventData
  else some (bodyError "Webhook multipart body is malformed.")

/-! ## The body -/

/-- `rawBody`. -/
inductive RawBody where
  | bytes (body : List UInt8)
  | text (body : String)
  | other

def RawBody.body? : RawBody → Option (List UInt8)
  | .bytes body => some body
  | .text body => some (utf8 body.toList)
  | .other => none

/-- The bytes of a body that has no more than `maxBodyBytes`, which is `none` where it is not a safe integer. -/
def requireBody (rawBody : RawBody) (maxBodyBytes : Option Int) : Except JsError (List UInt8) :=
  match rawBody.body? with
  | none => bodyError "Webhook rawBody must be bytes or text."
  | some body =>
    match maxBodyBytes with
    | none => bodyError "maxBodyBytes must be a positive safe integer."
    | some limit =>
      if limit < 1 then bodyError "maxBodyBytes must be a positive safe integer."
      else if body = [] then bodyError "Webhook body is empty."
      else if limit < body.length then
        .error { code := some "WEBHOOK_BODY_TOO_LARGE", message := "Webhook body exceeds the configured limit." }
      else .ok body

/-- The `eventData` of a JSON body. -/
def jsonEventData (B : BodyBuiltins) (body : List UInt8) : Except JsError String :=
  match B.parseJson (B.decode body) with
  | none => bodyError "Webhook JSON body is invalid."
  | some (.obj fields) =>
    match (Json.obj fields).field? "eventData" with
    | some (.str eventData) => .ok eventData
    | _ => bodyError "Webhook JSON eventData must be a string."
  | some _ => bodyError "Webhook JSON body must be an object."

/-- The `eventData` of a form body. -/
def formEventData (B : BodyBuiltins) (body : List UInt8) : Except JsError String :=
  match B.formValues (B.decode body) "eventData" with
  | [eventData] => .ok eventData
  | _ => bodyError "Webhook form eventData must occur once."

/-- The `eventData` of a body, by its content type. -/
def eventDataOf (B : BodyBuiltins) (rounds : Nat) (contentType : String) (body : List UInt8) :
    Option (Except JsError String) :=
  let (mediaType, parameters) := parseContentType B contentType
  if mediaType = "multipart/form-data" then multipartEventData B rounds body (parameters.get? "boundary")
  else if mediaType = "application/json" then some (jsonEventData B body)
  else if mediaType = "application/x-www-form-urlencoded" then some (formEventData B body)
  else some (bodyError "Webhook content type is unsupported.")

def extractEncryptedEventData (B : BodyBuiltins) (rounds : Nat) (contentType : String) (rawBody : RawBody)
    (maxBodyBytes : Option Int) : Option (Except JsError String) :=
  match requireBody rawBody maxBodyBytes with
  | .error e => some (.error e)
  | .ok body =>
    (eventDataOf B rounds contentType body).map fun found => found >>= fun eventData => requireEventData (some eventData)

end FullManagedBi.Webhook
