import FullManagedBi.Laws.MultipartScan

/-!
# Multipart forms

A form is parts with headers and contents, under a boundary (`MultipartForm`), and its bytes are written out as a client
writes them: white space, the case of names, quotes around values and the order of headers and parameters are free. The
scanner reads back what was written (`form_holds`, `partNamed`): a part of a form is cut at its headers and its content,
as a blank line is not within headers, and a delimiter is not within a content and cannot begin there. So the `eventData` of a
form comes back (`extractEncryptedEventData_law`).
-/

namespace FullManagedBi.Webhook

open Lib

variable {B : BodyBuiltins}

/-! ## White space -/

def IsTrimmed (text : List Char) : Prop :=
  (∀ c ∈ text.head?, isJsSpace c = false) ∧ ∀ c ∈ text.getLast?, isJsSpace c = false

instance (text : List Char) : Decidable (IsTrimmed text) :=
  decidable_of_iff (text.head?.all (!isJsSpace ·) = true ∧ text.getLast?.all (!isJsSpace ·) = true) (by
    simp [IsTrimmed, Option.all_eq_true])

def IsBlank (text : List Char) : Prop := ∀ c ∈ text, isJsSpace c = true

instance (text : List Char) : Decidable (IsBlank text) :=
  decidable_of_iff (text.all isJsSpace = true) List.all_eq_true

theorem jsTrim_spaces_append {spaces : List Char} (blank : IsBlank spaces) (text : List Char) :
    jsTrim (String.ofList (spaces ++ text)) = jsTrim (String.ofList text) := by
  simp only [jsTrim, String.toList_ofList, List.dropWhile_append_of_pos blank]

theorem IsTrimmed.jsTrim_eq {text : List Char} (trimmed : IsTrimmed text) :
    jsTrim (String.ofList text) = String.ofList text := by
  have kept : ∀ {cs : List Char}, (∀ c ∈ cs.head?, isJsSpace c = false) → cs.dropWhile isJsSpace = cs := by
    intro cs first
    cases cs with
    | nil => rfl
    | cons c cs => rw [List.dropWhile_cons, first c rfl, if_neg Bool.false_ne_true]
  unfold jsTrim
  rw [String.toList_ofList, kept trimmed.1, kept (by rw [List.head?_reverse]; exact trimmed.2), List.reverse_reverse]

/-! ## Forms -/

/-- A parameter as it is written: white space, a key, and a value with or without quotes. -/
structure FormParameter where
  gap : List Char
  key : List Char
  value : List Char
  quoted : Bool

def FormParameter.item (parameter : FormParameter) : List Char :=
  if parameter.quoted then '"' :: (parameter.value ++ ['"']) else parameter.value

def FormParameter.render (parameter : FormParameter) : List Char :=
  parameter.gap ++ parameter.key ++ '=' :: parameter.item

def PlainText (text : List Char) : Prop := ';' ∉ text ∧ '\r' ∉ text ∧ '\n' ∉ text

instance (text : List Char) : Decidable (PlainText text) := inferInstanceAs (Decidable (_ ∧ _ ∧ _))

/-- A parameter that is well-formed: a value without quotes is not empty, and does not begin with one. -/
structure FormParameter.WellFormed (parameter : FormParameter) : Prop where
  gap : IsBlank parameter.gap
  gap_plain : PlainText parameter.gap
  key_given : parameter.key ≠ []
  key_trimmed : IsTrimmed parameter.key
  key_plain : PlainText parameter.key
  key_equals : '=' ∉ parameter.key
  value_plain : PlainText parameter.value
  value_token : parameter.quoted = false →
    parameter.value ≠ [] ∧ IsTrimmed parameter.value ∧ parameter.value.head? ≠ some '"'

instance (parameter : FormParameter) : Decidable parameter.WellFormed :=
  decidable_of_iff (IsBlank parameter.gap ∧ PlainText parameter.gap ∧ parameter.key ≠ [] ∧
      IsTrimmed parameter.key ∧ PlainText parameter.key ∧ '=' ∉ parameter.key ∧ PlainText parameter.value ∧
      (parameter.quoted = false →
        parameter.value ≠ [] ∧ IsTrimmed parameter.value ∧ parameter.value.head? ≠ some '"'))
    ⟨fun ⟨gap, plain, given, trimmed, key, equals, value, token⟩ =>
      ⟨gap, plain, given, trimmed, key, equals, value, token⟩,
    fun ok => ⟨ok.gap, ok.gap_plain, ok.key_given, ok.key_trimmed, ok.key_plain, ok.key_equals, ok.value_plain,
      ok.value_token⟩⟩

/-- A list of parameters, with keys that differ by more than their case. -/
structure ParametersWellFormed (B : BodyBuiltins) (parameters : List FormParameter) : Prop where
  each : ∀ parameter ∈ parameters, parameter.WellFormed
  keys : (parameters.map fun parameter => B.letters.toLowerCase (String.ofList parameter.key)).Nodup

def renderValue (kind : List Char) (parameters : List FormParameter) : List Char :=
  [';'].intercalate (kind :: parameters.map FormParameter.render)

def FormParameter.lookup (B : BodyBuiltins) (parameters : List FormParameter) (key : String) : Option String :=
  (parameters.find? fun parameter => B.letters.toLowerCase (String.ofList parameter.key) = key).map
    fun parameter => String.ofList parameter.value

/-! ## Reading parameters back -/

theorem unquote_quoted (value : List Char) : unquote (String.ofList ('"' :: (value ++ ['"']))) = String.ofList value := by
  have last : ('"' :: (value ++ ['"'])).getLast? = some '"' := by
    rw [← List.cons_append, List.getLast?_append]
    rfl
  simp only [unquote, String.toList_ofList, last, if_true, List.dropLast_concat]

theorem unquote_token {value : List Char} (token : value.head? ≠ some '"') :
    unquote (String.ofList value) = String.ofList value := by
  unfold unquote
  rw [String.toList_ofList]
  split
  · next rest => exact absurd rfl token
  · rfl

theorem cutAt_single {c : Char} {front rest : List Char} (free : c ∉ front) :
    cutAt [c] (front ++ c :: rest) = some (front, rest) := by
  rw [cutAt_append_of_not_mem free]
  have here : cutAt [c] (c :: rest) = some ([], rest) := cutAt_pattern rest
  rw [here, Option.map_some, List.append_nil]

/-- The value as it is written has no white space at its ends, and is read back. -/
theorem item_read {parameter : FormParameter} (ok : parameter.WellFormed) :
    IsTrimmed parameter.item ∧ parameter.item ≠ [] ∧
      unquote (String.ofList parameter.item) = String.ofList parameter.value := by
  unfold FormParameter.item
  cases quotes : parameter.quoted with
  | true =>
    refine ⟨⟨?_, ?_⟩, by simp, unquote_quoted parameter.value⟩
    · rintro c ⟨⟩
      decide
    · intro c last
      rw [if_pos rfl, ← List.cons_append, List.getLast?_append] at last
      obtain rfl : '"' = c := Option.some.inj last
      decide
  | false =>
    obtain ⟨given, trimmed, token⟩ := ok.value_token quotes
    exact ⟨trimmed, given, unquote_token token⟩

theorem readParameter_render {parameter : FormParameter} (ok : parameter.WellFormed) :
    readParameter B parameter.render =
      some (B.letters.toLowerCase (String.ofList parameter.key), String.ofList parameter.value) := by
  obtain ⟨trimmed, -, read⟩ := item_read ok
  have free : '=' ∉ parameter.gap ++ parameter.key := by
    rw [List.mem_append, not_or]
    refine ⟨fun mem => ?_, ok.key_equals⟩
    exact absurd (ok.gap '=' mem) (by decide)
  have some_key : parameter.gap ++ parameter.key ≠ [] := by simp [ok.key_given]
  unfold readParameter
  rw [FormParameter.render, cutAt_single free]
  split
  · next no => exact nomatch no
  · next no =>
    exact absurd (Prod.mk.inj (Option.some.inj no)).1 some_key
  · next key item same =>
    obtain ⟨rfl, rfl⟩ := Prod.mk.inj (Option.some.inj same)
    rw [jsTrim_spaces_append ok.gap, ok.key_trimmed.jsTrim_eq, trimmed.jsTrim_eq, read]

theorem readParameters_render {parameters : List FormParameter} (ok : ParametersWellFormed B parameters) (key : String) :
    (readParameters B (parameters.map FormParameter.render)).get? key = FormParameter.lookup B parameters key := by
  have read : (parameters.map FormParameter.render).filterMap (readParameter B) = parameters.map
      fun parameter => (B.letters.toLowerCase (String.ofList parameter.key), String.ofList parameter.value) := by
    rw [List.filterMap_map, ← List.filterMap_eq_map]
    apply List.filterMap_congr
    intro parameter mem
    exact readParameter_render (ok.each parameter mem)
  rw [readParameters, read, OrderedMap.get?_ofEntries_of_nodup (by rw [List.map_map]; exact ok.keys), List.find?_map,
    Option.map_map]
  rfl

theorem splitOn_renderValue {kind : List Char} {parameters : List FormParameter} (plain : ';' ∉ kind)
    (ok : ∀ parameter ∈ parameters, parameter.WellFormed) :
    (renderValue kind parameters).splitOn ';' = kind :: parameters.map FormParameter.render := by
  apply List.splitOn_intercalate
  · intro part mem
    rcases List.mem_cons.mp mem with rfl | mem
    · exact plain
    · obtain ⟨parameter, here, rfl⟩ := List.mem_map.mp mem
      have wellFormed := ok parameter here
      have item : ';' ∉ parameter.item := by
        unfold FormParameter.item
        have value := wellFormed.value_plain.1
        split
        · simp [value]
        · exact value
      simp [FormParameter.render, wellFormed.gap_plain.1, wellFormed.key_plain.1, item]
  · exact List.cons_ne_nil _ _

theorem renderValue_cons (kind : List Char) (parameter : FormParameter) (parameters : List FormParameter) :
    renderValue kind (parameter :: parameters) = kind ++ ';' :: renderValue parameter.render parameters := by
  simp [renderValue, List.intercalate]

theorem renderValue_back {kind : List Char} {parameters : List FormParameter} (given : kind ≠ [])
    (back : ∀ c ∈ kind.getLast?, isJsSpace c = false) (ok : ∀ parameter ∈ parameters, parameter.WellFormed) :
    renderValue kind parameters ≠ [] ∧ ∀ c ∈ (renderValue kind parameters).getLast?, isJsSpace c = false := by
  induction parameters generalizing kind with
  | nil =>
    have bare : renderValue kind [] = kind := by simp [renderValue, List.intercalate]
    rw [bare]
    exact ⟨given, back⟩
  | cons parameter parameters ih =>
    obtain ⟨first, others⟩ := List.forall_mem_cons.mp ok
    obtain ⟨trimmed, some_item, -⟩ := item_read first
    have last : parameter.render.getLast? = parameter.item.getLast? := by
      rw [FormParameter.render, List.getLast?_append_of_ne_nil _ (List.cons_ne_nil _ _),
        ← List.singleton_append, List.getLast?_append_of_ne_nil _ some_item]
    have some_text : parameter.render ≠ [] := by simp [FormParameter.render]
    obtain ⟨some_rest, rest⟩ := ih some_text (last ▸ trimmed.2) others
    rw [renderValue_cons]
    refine ⟨by simp [given], ?_⟩
    rw [List.getLast?_append_of_ne_nil _ (List.cons_ne_nil _ _), ← List.singleton_append,
      List.getLast?_append_of_ne_nil _ some_rest]
    exact rest

theorem renderValue_trimmed {kind : List Char} {parameters : List FormParameter} (given : kind ≠ [])
    (trimmed : IsTrimmed kind) (ok : ∀ parameter ∈ parameters, parameter.WellFormed) :
    IsTrimmed (renderValue kind parameters) := by
  refine ⟨?_, (renderValue_back given trimmed.2 ok).2⟩
  cases parameters with
  | nil => simpa [renderValue, List.intercalate] using trimmed.1
  | cons parameter parameters =>
    rw [renderValue_cons, List.head?_append_of_ne_nil _ given]
    exact trimmed.1

theorem parseDisposition_render {kind : List Char} {parameters : List FormParameter} (plain : ';' ∉ kind)
    (trimmed : IsTrimmed kind) (form : B.letters.toLowerCase (String.ofList kind) = "form-data")
    (ok : ParametersWellFormed B parameters) :
    parseDisposition B (some (String.ofList (renderValue kind parameters))) =
      some (readParameters B (parameters.map FormParameter.render)) := by
  unfold parseDisposition
  simp only [Option.getD_some, String.toList_ofList]
  rw [splitOn_renderValue plain ok.each]
  simp [trimmed.jsTrim_eq, form]

/-! ## Headers -/

/-- A header as it is written, without the end of the line. -/
structure FormHeader where
  name : List Char
  value : List Char

def FormHeader.render (header : FormHeader) : List Char := header.name ++ ':' :: header.value

def FormHeader.key (B : BodyBuiltins) (header : FormHeader) : String :=
  B.letters.toLowerCase (jsTrim (String.ofList header.name))

structure FormHeader.WellFormed (header : FormHeader) : Prop where
  name_given : header.name ≠ []
  name_colon : ':' ∉ header.name
  line : '\r' ∉ header.render ∧ '\n' ∉ header.render

instance (header : FormHeader) : Decidable header.WellFormed :=
  decidable_of_iff (header.name ≠ [] ∧ ':' ∉ header.name ∧ '\r' ∉ header.render ∧ '\n' ∉ header.render)
    ⟨fun ⟨given, colon, line⟩ => ⟨given, colon, line⟩, fun ok => ⟨ok.name_given, ok.name_colon, ok.line⟩⟩

theorem addHeader_render {header : FormHeader} (ok : header.WellFormed) {headers : OrderedMap String String}
    (fresh : headers.get? (header.key B) = none) : addHeader B headers header.render =
      .ok (headers.set (header.key B) (jsTrim (String.ofList header.value))) := by
  unfold addHeader
  rw [FormHeader.render, cutAt_single ok.name_colon]
  split
  · next no => exact nomatch no
  · next no => exact absurd (Prod.mk.inj (Option.some.inj no)).1 ok.name_given
  · next name value same =>
    obtain ⟨rfl, rfl⟩ := Prod.mk.inj (Option.some.inj same)
    rw [FormHeader.key] at fresh
    simp [FormHeader.key, fresh]

theorem addHeaders_render {headers : List FormHeader} (ok : ∀ header ∈ headers, header.WellFormed)
    (keys : (headers.map (FormHeader.key B)).Nodup) {before : OrderedMap String String}
    (fresh : ∀ header ∈ headers, before.get? (header.key B) = none) :
    ∃ after, (headers.map FormHeader.render).foldlM (addHeader B) before = .ok after ∧
      (∀ header ∈ headers, after.get? (header.key B) = some (jsTrim (String.ofList header.value))) ∧
      ∀ key, key ∉ headers.map (FormHeader.key B) → after.get? key = before.get? key := by
  induction headers generalizing before with
  | nil => exact ⟨before, rfl, nofun, fun _ _ => rfl⟩
  | cons header headers ih =>
    obtain ⟨first, others⟩ := List.forall_mem_cons.mp ok
    obtain ⟨here, later⟩ := List.forall_mem_cons.mp fresh
    rw [List.map_cons, List.nodup_cons] at keys
    have free : ∀ other ∈ headers, (before.set (header.key B) (jsTrim (String.ofList header.value))).get?
        (other.key B) = none := by
      intro other mem
      have differs : other.key B ≠ header.key B := by
        intro same
        exact keys.1 (same ▸ List.mem_map_of_mem mem)
      rw [OrderedMap.get?_set, if_neg differs]
      exact later other mem
    obtain ⟨after, done, found, rest⟩ := ih others keys.2 free
    refine ⟨after, ?_, ?_, ?_⟩
    · rw [List.map_cons, List.foldlM_cons, addHeader_render first here]
      exact done
    · rw [List.forall_mem_cons]
      refine ⟨?_, found⟩
      rw [rest _ keys.1, OrderedMap.get?_set, if_pos rfl]
    · intro key apart
      rw [List.map_cons, List.mem_cons, not_or] at apart
      rw [rest key apart.2, OrderedMap.get?_set, if_neg apart.1]

/-! ## Lines -/

def joinLines (lines : List (List Char)) : List Char := ['\r', '\n'].intercalate lines

theorem joinLines_cons_cons (line next : List Char) (lines : List (List Char)) :
    joinLines (line :: next :: lines) = line ++ ('\r' :: '\n' :: joinLines (next :: lines)) := by
  simp [joinLines, List.intercalate]

theorem joinLines_singleton (line : List Char) : joinLines [line] = line := by simp [joinLines, List.intercalate]

theorem splitLines_append {line rest : List Char} (free : '\r' ∉ line) {first : List Char} {lines : List (List Char)}
    (behind : splitLines rest = first :: lines) : splitLines (line ++ rest) = (line ++ first) :: lines := by
  induction line with
  | nil => exact behind
  | cons c line ih =>
    have rest := ih (List.not_mem_of_not_mem_cons free)
    have apart : c ≠ '\r' := fun same => free (List.mem_cons.mpr (.inl same.symm))
    rw [List.cons_append, splitLines.eq_3 _ _ (by rintro tail rfl; exact absurd rfl apart), rest]
    rfl

theorem splitLines_joinLines {lines : List (List Char)} (some_line : lines ≠ []) (free : ∀ line ∈ lines, '\r' ∉ line) :
    splitLines (joinLines lines) = lines := by
  induction lines with
  | nil => exact absurd rfl some_line
  | cons line lines ih =>
    obtain ⟨first, others⟩ := List.forall_mem_cons.mp free
    cases lines with
    | nil =>
      have read : splitLines (line ++ []) = (line ++ []) :: [] := splitLines_append first rfl
      rw [List.append_nil] at read
      rw [joinLines_singleton, read]
    | cons next lines =>
      have rest := ih (List.cons_ne_nil _ _) others
      have behind : splitLines ('\r' :: '\n' :: joinLines (next :: lines)) = [] :: (next :: lines) := by
        rw [splitLines, rest]
      rw [joinLines_cons_cons, splitLines_append first behind, List.append_nil]

/-- The block of headers is cut at the blank line: each line has characters, and none of them is a CR. -/
theorem cutAt_head {lines : List (List Char)} (some_line : lines ≠ []) (given : ∀ line ∈ lines, line ≠ [])
    (free : ∀ line ∈ lines, '\r' ∉ line) (rest : List UInt8) :
    cutAt (crlf ++ crlf) (utf8 (joinLines lines) ++ (crlf ++ crlf ++ rest)) = some (utf8 (joinLines lines), rest) := by
  have no_cr : ∀ line : List Char, '\r' ∉ line → (13 : UInt8) ∉ utf8 line := by
    intro line free mem
    exact free (mem_of_mem_utf8 (by decide) (by decide) mem)
  induction lines with
  | nil => exact absurd rfl some_line
  | cons line lines ih =>
    obtain ⟨line_free, others_free⟩ := List.forall_mem_cons.mp free
    obtain ⟨-, others_given⟩ := List.forall_mem_cons.mp given
    cases lines with
    | nil =>
      have here : cutAt (crlf ++ crlf) (crlf ++ crlf ++ rest) = some ([], rest) := cutAt_pattern rest
      rw [joinLines_singleton, show crlf ++ crlf = 13 :: [10, 13, 10] from rfl,
        cutAt_append_of_not_mem (no_cr line line_free)]
      rw [show (13 :: [10, 13, 10] : List UInt8) = crlf ++ crlf from rfl, here, Option.map_some, List.append_nil]
    | cons next lines =>
      have later := ih (List.cons_ne_nil _ _) others_given others_free
      obtain ⟨next_free, -⟩ := List.forall_mem_cons.mp others_free
      obtain ⟨next_given, -⟩ := List.forall_mem_cons.mp others_given
      -- The line behind a CRLF begins with another byte than CR.
      obtain ⟨tail, joined⟩ : ∃ tail, joinLines (next :: lines) = next ++ tail := by
        cases lines with
        | nil => exact ⟨[], by rw [joinLines_singleton, List.append_nil]⟩
        | cons other lines => exact ⟨_, joinLines_cons_cons next other lines⟩
      obtain ⟨b, bytes, first⟩ := List.exists_cons_of_ne_nil (utf8_ne_nil next_given)
      have differs : b ≠ 13 := by
        rintro rfl
        exact no_cr next next_free (first ▸ List.mem_cons_self)
      have shape : utf8 (joinLines (line :: next :: lines)) = utf8 line ++ 13 :: 10 :: utf8 (joinLines (next :: lines)) := by
        rw [joinLines_cons_cons, utf8_append]
        rfl
      have not_here : ¬ crlf ++ crlf <+: 13 :: 10 :: (utf8 (joinLines (next :: lines)) ++ (crlf ++ crlf ++ rest)) := by
        intro here
        have inner := (List.cons_prefix_cons.mp (List.cons_prefix_cons.mp here).2).2
        rw [joined, utf8_append, first] at inner
        exact differs (List.cons_prefix_cons.mp inner).1.symm
      have not_there : ¬ crlf ++ crlf <+: 10 :: (utf8 (joinLines (next :: lines)) ++ (crlf ++ crlf ++ rest)) := by
        intro here
        exact absurd (List.cons_prefix_cons.mp here).1 (by decide)
      rw [shape, List.append_assoc, List.cons_append, List.cons_append, show crlf ++ crlf = 13 :: [10, 13, 10] from rfl,
        cutAt_append_of_not_mem (no_cr line line_free), show (13 :: [10, 13, 10] : List UInt8) = crlf ++ crlf from rfl,
        cutAt_cons_of_not_isPrefix not_here, cutAt_cons_of_not_isPrefix not_there, later]
      rfl

/-! ## Parts and forms -/

/-- A part as it is written: its disposition, its other headers ahead of that and behind it, and its content. -/
structure FormPart where
  before : List FormHeader
  dispositionName : List Char
  gap : List Char
  kind : List Char
  parameters : List FormParameter
  after : List FormHeader
  content : List UInt8

def FormPart.disposition (part : FormPart) : FormHeader :=
  ⟨part.dispositionName, part.gap ++ renderValue part.kind part.parameters⟩

def FormPart.headers (part : FormPart) : List FormHeader := part.before ++ part.disposition :: part.after

def FormPart.head (part : FormPart) : List UInt8 := utf8 (joinLines (part.headers.map FormHeader.render))

def FormPart.raw (part : FormPart) : RawPart := ⟨part.head, part.content⟩

/-- What a part says of a key of its disposition. -/
def FormPart.lookup (B : BodyBuiltins) (part : FormPart) (key : String) : Option String :=
  FormParameter.lookup B part.parameters key

/-- A part that is well-formed: its headers differ in their names, its disposition is `form-data` with a name, and its
content is free of the delimiter. -/
structure FormPart.WellFormed (B : BodyBuiltins) (boundary : String) (part : FormPart) : Prop where
  each : ∀ header ∈ part.headers, header.WellFormed
  keys : (part.headers.map (FormHeader.key B)).Nodup
  disposition : part.disposition.key B = "content-disposition"
  gap : IsBlank part.gap
  kind_given : part.kind ≠ []
  kind_trimmed : IsTrimmed part.kind
  kind_plain : ';' ∉ part.kind
  kind_form : B.letters.toLowerCase (String.ofList part.kind) = "form-data"
  parameters : ParametersWellFormed B part.parameters
  name : ∃ name, part.lookup B "name" = some name ∧ name ≠ ""
  content : ¬ crlf ++ delimiterOf boundary <:+: part.content

/-- A form: its boundary, its parts, and whether a CRLF ends it. -/
structure MultipartForm where
  boundary : List Char
  parts : List FormPart
  lastLine : Bool

def renderParts (delimiter : List UInt8) (ending : List UInt8) : List FormPart → List UInt8
  | [] => dashes ++ ending
  | part :: parts =>
    crlf ++ (part.head ++ (crlf ++ crlf ++ (part.content ++ (crlf ++ delimiter ++ renderParts delimiter ending parts))))

def MultipartForm.render (form : MultipartForm) : List UInt8 :=
  delimiterOf (String.ofList form.boundary) ++ renderParts (delimiterOf (String.ofList form.boundary))
    (if form.lastLine then crlf else []) form.parts

structure BoundaryWellFormed (boundary : List Char) : Prop where
  given : boundary ≠ []
  trimmed : IsTrimmed boundary
  short : jsLength (String.ofList boundary) ≤ 200
  line : '\r' ∉ boundary ∧ '\n' ∉ boundary

structure MultipartForm.WellFormed (B : BodyBuiltins) (form : MultipartForm) : Prop where
  boundary : BoundaryWellFormed form.boundary
  parts : ∀ part ∈ form.parts, part.WellFormed B (String.ofList form.boundary)

/-! ## Reading a form back -/

variable {boundary : List Char} {part : FormPart} {form : MultipartForm}

theorem boundary_valid (ok : BoundaryWellFormed boundary) :
    jsTrim (String.ofList boundary) = String.ofList boundary ∧ invalidBoundary (String.ofList boundary) = false := by
  refine ⟨ok.trimmed.jsTrim_eq, ?_⟩
  have given : String.ofList boundary ≠ "" := by
    intro blank
    apply ok.given
    rw [← String.toList_ofList (l := boundary), blank]
    rfl
  have short := ok.short
  have line := ok.line
  simp only [invalidBoundary, Bool.or_eq_false_iff, decide_eq_false_iff_not, String.toList_ofList]
  refine ⟨⟨given, not_lt.mpr short⟩, ?_⟩
  rw [List.any_eq_false]
  intro c mem
  simp only [Bool.or_eq_true, decide_eq_true_eq, not_or]
  exact ⟨fun same => line.1 (same ▸ mem), fun same => line.2 (same ▸ mem)⟩

theorem cr_not_mem_delimiter (ok : BoundaryWellFormed boundary) : (13 : UInt8) ∉ delimiterOf (String.ofList boundary) := by
  rw [delimiterOf, List.mem_append, not_or, String.toList_ofList]
  refine ⟨by decide, fun mem => ?_⟩
  exact ok.line.1 (mem_of_mem_utf8 (by decide) (by decide) mem)

theorem FormPart.WellFormed.lines (ok : part.WellFormed B (String.ofList boundary)) :
    part.headers.map FormHeader.render ≠ [] ∧ (∀ line ∈ part.headers.map FormHeader.render, line ≠ []) ∧
      ∀ line ∈ part.headers.map FormHeader.render, '\r' ∉ line := by
  refine ⟨by simp [FormPart.headers], ?_, ?_⟩
  · intro line mem
    obtain ⟨header, -, rfl⟩ := List.mem_map.mp mem
    simp [FormHeader.render]
  · intro line mem
    obtain ⟨header, here, rfl⟩ := List.mem_map.mp mem
    exact (ok.each header here).line.1

theorem renderParts_holds {parts : List FormPart} {ending : List UInt8} (valid : BoundaryWellFormed boundary)
    (ok : ∀ part ∈ parts, part.WellFormed B (String.ofList boundary)) (closed : ending = [] ∨ ending = crlf) :
    Holds (delimiterOf (String.ofList boundary)) (renderParts (delimiterOf (String.ofList boundary)) ending parts)
      (parts.map FormPart.raw) := by
  induction parts with
  | nil => exact .close closed
  | cons part parts ih =>
    obtain ⟨first, others⟩ := List.forall_mem_cons.mp ok
    obtain ⟨some_line, given, free⟩ := first.lines
    have once : (13 : UInt8) ∉ 10 :: delimiterOf (String.ofList boundary) := by
      rw [List.mem_cons, not_or]
      exact ⟨by decide, cr_not_mem_delimiter valid⟩
    exact .part (cutAt_head some_line given free _) (cutAt_append_of_free once first.content _) (ih others)

theorem part_named (ok : part.WellFormed B (String.ofList boundary)) {name : String}
    (found : part.lookup B "name" = some name) :
    Named B part.raw (readParameters B (part.parameters.map FormParameter.render)) name := by
  obtain ⟨some_line, given, free⟩ := ok.lines
  obtain ⟨headers, read, values, -⟩ := addHeaders_render ok.each ok.keys (fun _ _ => OrderedMap.get?_empty)
  have value : headers.get? "content-disposition" = some (String.ofList (renderValue part.kind part.parameters)) := by
    have here := values part.disposition (by simp [FormPart.headers])
    rw [ok.disposition] at here
    rw [here, FormPart.disposition, jsTrim_spaces_append ok.gap,
      (renderValue_trimmed ok.kind_given ok.kind_trimmed ok.parameters.each).jsTrim_eq]
  refine ⟨headers, ?_, ?_⟩
  · unfold readHeaders
    rw [FormPart.raw, FormPart.head, B.decode_utf8, String.toList_ofList, splitLines_joinLines some_line free, read]
  · rw [value, parseDisposition_render ok.kind_plain ok.kind_trimmed ok.kind_form ok.parameters]
    have given : name ≠ "" := by
      obtain ⟨other, same, given⟩ := ok.name
      obtain rfl := Option.mem_unique found same
      exact given
    have here : (readParameters B (part.parameters.map FormParameter.render)).get? "name" = some name := by
      rw [readParameters_render ok.parameters]
      exact found
    simp only [requireName, here, if_neg given]

/-- A form with one scalar `eventData`. -/
structure MultipartForm.Single (B : BodyBuiltins) (form : MultipartForm) (content : List UInt8) : Prop where
  few : form.parts.length ≤ 32
  single : ∃ before part after, form.parts = before ++ part :: after ∧ part.lookup B "name" = some "eventData" ∧
    part.lookup B "filename" = none ∧ part.content = content ∧
    ∀ other ∈ before ++ after, other.lookup B "name" ≠ some "eventData"

theorem MultipartForm.closed (form : MultipartForm) :
    (if form.lastLine then crlf else []) = [] ∨ (if form.lastLine then crlf else []) = crlf := by
  cases form.lastLine with
  | true => exact .inr rfl
  | false => exact .inl rfl

theorem form_reads {content : List UInt8} (ok : form.WellFormed B) (single : form.Single B content) :
    Reads B (String.ofList form.boundary) form.render (form.parts.map FormPart.raw) (B.decode content) := by
  refine ⟨⟨_, rfl, renderParts_holds ok.boundary ok.parts form.closed⟩, by rw [List.length_map]; exact single.few, ?_⟩
  obtain ⟨before, part, after, parts, named, scalar, rfl, apart⟩ := single.single
  have there : ∀ other ∈ before ++ part :: after, other.WellFormed B (String.ofList form.boundary) := parts ▸ ok.parts
  have here : part.WellFormed B (String.ofList form.boundary) := there part (by simp)
  refine ⟨before.map FormPart.raw, part.raw, after.map FormPart.raw, by simp [parts], ?_, rfl, ?_⟩
  · refine ⟨_, part_named here named, ?_⟩
    rw [readParameters_render here.parameters]
    exact scalar
  · intro other mem
    rw [← List.map_append] at mem
    obtain ⟨source, inside, rfl⟩ := List.mem_map.mp mem
    have ok : source.WellFormed B (String.ofList form.boundary) := by
      apply there
      rw [List.mem_append] at inside
      rw [List.mem_append, List.mem_cons]
      exact inside.imp_right .inr
    obtain ⟨name, found, -⟩ := ok.name
    refine ⟨_, name, part_named ok found, ?_⟩
    rintro rfl
    exact apart source inside found

/-! ## The body of a webhook -/

structure FormContentType (B : BodyBuiltins) (boundary : List Char) (contentType : String) : Prop where
  written : ∃ kind parameters, contentType = String.ofList (renderValue kind parameters) ∧ kind ≠ [] ∧ IsTrimmed kind ∧
    ';' ∉ kind ∧ B.letters.toLowerCase (String.ofList kind) = "multipart/form-data" ∧
    ParametersWellFormed B parameters ∧
    FormParameter.lookup B parameters "boundary" = some (String.ofList boundary)

theorem parseContentType_form {contentType : String} (written : FormContentType B boundary contentType) :
    ∃ parameters, parseContentType B contentType = ("multipart/form-data", parameters) ∧
      parameters.get? "boundary" = some (String.ofList boundary) := by
  obtain ⟨kind, parameters, rfl, given, trimmed, plain, form, ok, found⟩ := written.written
  refine ⟨readParameters B (parameters.map FormParameter.render), ?_, ?_⟩
  · unfold parseContentType
    rw [(renderValue_trimmed given trimmed ok.each).jsTrim_eq]
    simp only [String.toList_ofList]
    rw [splitOn_renderValue plain ok.each]
    simp [form]
  · rw [readParameters_render ok]
    exact found

variable {rounds : Nat} {contentType : String} {rawBody : RawBody} {maxBodyBytes : Option Int}
  {outcome : Except JsError String}

theorem extract_multipart_iff {parameters : OrderedMap String String} {eventData : String}
    (kind : parseContentType B contentType = ("multipart/form-data", parameters))
    (h : extractEncryptedEventData B rounds contentType rawBody maxBodyBytes = some outcome) :
    outcome = .ok eventData ↔ ∃ body parts, requireBody rawBody maxBodyBytes = .ok body ∧
      invalidBoundary (jsTrim ((parameters.get? "boundary").getD "")) = false ∧
      Reads B (jsTrim ((parameters.get? "boundary").getD "")) body parts eventData ∧ jsTrim eventData ≠ "" := by
  unfold extractEncryptedEventData at h
  split at h
  · next e refused =>
    obtain rfl := Option.some.inj h
    refine iff_of_false (fun none => by cases none) ?_
    rintro ⟨body, parts, bytes, -⟩
    cases refused.symm.trans bytes
  · next body bytes =>
    obtain ⟨found, done, rfl⟩ := Option.map_eq_some_iff.mp h
    simp only [eventDataOf, kind, if_true] at done
    have reads : ∀ text, found = .ok text ↔ _ := fun text => multipartEventData_ok_iff done
    rw [bind_eq_ok_iff]
    constructor
    · rintro ⟨text, same, required⟩
      obtain ⟨shape, -⟩ := requireEventData_ok_iff.mp required
      obtain rfl := Option.some.inj shape
      obtain ⟨valid, ⟨parts, reading⟩, given⟩ := (reads text).mp same
      exact ⟨body, parts, bytes, valid, reading, given⟩
    · rintro ⟨other, parts, others, valid, reading, given⟩
      obtain rfl := Except.ok.inj (bytes.symm.trans others)
      exact ⟨eventData, (reads eventData).mpr ⟨valid, ⟨parts, reading⟩, given⟩, requireEventData_ok_iff.mpr ⟨rfl, given⟩⟩

variable (B contentType rawBody maxBodyBytes) in
theorem exists_extract : ∃ outcome, extractEncryptedEventData B 33 contentType rawBody maxBodyBytes = some outcome := by
  unfold extractEncryptedEventData
  split
  · exact ⟨_, rfl⟩
  · next body _ =>
    have found : ∃ found, eventDataOf B 33 contentType body = some found := by
      unfold eventDataOf
      dsimp only
      split
      · exact exists_multipartEventData B body _
      · split
        · exact ⟨_, rfl⟩
        · split
          · exact ⟨_, rfl⟩
          · exact ⟨_, rfl⟩
    obtain ⟨found, done⟩ := found
    exact ⟨_, by rw [done, Option.map_some]⟩

theorem requireBody_form {limit : Nat} (fits : form.render.length ≤ limit) :
    requireBody (.bytes form.render) (some (limit : Int)) = .ok form.render := by
  have some_bytes : form.render ≠ [] := by simp [MultipartForm.render, delimiterOf, dashes]
  have positive := List.length_pos_iff.mpr some_bytes
  have low : ¬ (limit : Int) < 1 := by omega
  have high : ¬ (limit : Int) < form.render.length := by omega
  simp only [requireBody, RawBody.body?, if_neg low, if_neg some_bytes, if_neg high]

theorem error_of_not_ok {ε α : Type} {value : Except ε α} (refused : ∀ a, value ≠ .ok a) : ∃ e, value = .error e := by
  cases value with
  | ok a => exact absurd rfl (refused a)
  | error e => exact ⟨e, rfl⟩

theorem body_of_requireBody {body : List UInt8} (required : requireBody rawBody maxBodyBytes = .ok body) :
    rawBody.body? = some body := by
  unfold requireBody at required
  split at required
  · exact nomatch required
  · next bytes there =>
    split at required
    · exact nomatch required
    · split at required
      · exact nomatch required
      · split at required
        · exact nomatch required
        · split at required
          · exact nomatch required
          · exact Except.ok.inj required ▸ there

theorem extract_form {text : List Char} {limit : Nat} (ok : form.WellFormed B)
    (written : FormContentType B form.boundary contentType) (single : form.Single B (utf8 text))
    (given : jsTrim (String.ofList text) ≠ "") (fits : form.render.length ≤ limit)
    (h : extractEncryptedEventData B rounds contentType (.bytes form.render) (some limit) = some outcome) :
    outcome = .ok (String.ofList text) := by
  obtain ⟨parameters, kind, found⟩ := parseContentType_form written
  obtain ⟨trimmed, valid⟩ := boundary_valid ok.boundary
  rw [extract_multipart_iff kind h, found, Option.getD_some, trimmed]
  have reading := form_reads ok single
  rw [B.decode_utf8] at reading
  exact ⟨form.render, _, requireBody_form fits, valid, reading, given⟩

theorem extract_twice {parameters : OrderedMap String String} {bytes : List UInt8} {front middle back : List RawPart}
    {first second : RawPart} (kind : parseContentType B contentType = ("multipart/form-data", parameters))
    (body : rawBody.body? = some (delimiterOf (jsTrim ((parameters.get? "boundary").getD "")) ++ bytes))
    (holds : Holds (delimiterOf (jsTrim ((parameters.get? "boundary").getD ""))) bytes
      (front ++ first :: middle ++ second :: back)) (one : IsEventData B first) (two : IsEventData B second)
    (h : extractEncryptedEventData B rounds contentType rawBody maxBodyBytes = some outcome) :
    ∃ e, outcome = .error e := by
  apply error_of_not_ok
  intro eventData ok
  obtain ⟨read, parts, required, -, reading, -⟩ := (extract_multipart_iff kind h).mp ok
  have same := Option.mem_unique (body_of_requireBody required) body
  exact not_reads_of_two holds one two parts eventData (same ▸ reading)

theorem extract_form_twice {front middle back : List FormPart} {first second : FormPart} (ok : form.WellFormed B)
    (written : FormContentType B form.boundary contentType)
    (parts : form.parts = front ++ first :: middle ++ second :: back)
    (one : first.lookup B "name" = some "eventData") (two : second.lookup B "name" = some "eventData")
    (h : extractEncryptedEventData B rounds contentType (.bytes form.render) maxBodyBytes = some outcome) :
    ∃ e, outcome = .error e := by
  obtain ⟨parameters, kind, found⟩ := parseContentType_form written
  obtain ⟨trimmed, -⟩ := boundary_valid ok.boundary
  have boundary : jsTrim ((parameters.get? "boundary").getD "") = String.ofList form.boundary := by
    rw [found, Option.getD_some, trimmed]
  have holds := renderParts_holds ok.boundary ok.parts form.closed
  rw [← boundary, parts] at holds
  simp only [List.map_append, List.map_cons] at holds
  refine extract_twice kind ?_ holds ⟨_, part_named (ok.parts first (by simp [parts])) one⟩
    ⟨_, part_named (ok.parts second (by simp [parts])) two⟩ h
  rw [boundary, ← parts]
  rfl

/-- **Multipart bodies.** The reading of each body ends within 33 rounds. Of a well-formed form with at most 32 parts,
one of which is a scalar `eventData` that is not blank, exactly that `eventData` is extracted. A multipart body comes to
an `eventData` exactly where it reads as at most 32 parts with exactly one scalar `eventData`, which it is; so a body in
which two parts are named `eventData` is refused, and so is a well-formed form with two such parts. -/
theorem extractEncryptedEventData_law (B : BodyBuiltins) : (∀ contentType rawBody maxBodyBytes, ∃ outcome,
      extractEncryptedEventData B 33 contentType rawBody maxBodyBytes = some outcome) ∧
    (∀ rounds (form : MultipartForm) contentType text (limit : Nat) outcome, form.WellFormed B →
      FormContentType B form.boundary contentType → form.Single B (utf8 text) → jsTrim (String.ofList text) ≠ "" →
      form.render.length ≤ limit →
      extractEncryptedEventData B rounds contentType (.bytes form.render) (some limit) = some outcome →
      outcome = .ok (String.ofList text)) ∧
    (∀ rounds contentType rawBody maxBodyBytes outcome eventData parameters,
      parseContentType B contentType = ("multipart/form-data", parameters) →
      extractEncryptedEventData B rounds contentType rawBody maxBodyBytes = some outcome →
      (outcome = .ok eventData ↔ ∃ body parts, requireBody rawBody maxBodyBytes = .ok body ∧
        invalidBoundary (jsTrim ((parameters.get? "boundary").getD "")) = false ∧
        Reads B (jsTrim ((parameters.get? "boundary").getD "")) body parts eventData ∧ jsTrim eventData ≠ "")) ∧
    (∀ rounds contentType rawBody maxBodyBytes outcome parameters bytes front first middle second back,
      parseContentType B contentType = ("multipart/form-data", parameters) →
      rawBody.body? = some (delimiterOf (jsTrim ((parameters.get? "boundary").getD "")) ++ bytes) →
      Holds (delimiterOf (jsTrim ((parameters.get? "boundary").getD ""))) bytes
        (front ++ first :: middle ++ second :: back) → IsEventData B first → IsEventData B second →
      extractEncryptedEventData B rounds contentType rawBody maxBodyBytes = some outcome → ∃ e, outcome = .error e) ∧
    ∀ rounds (form : MultipartForm) contentType maxBodyBytes outcome front first middle second back,
      form.WellFormed B → FormContentType B form.boundary contentType →
      form.parts = front ++ first :: middle ++ second :: back → first.lookup B "name" = some "eventData" →
      second.lookup B "name" = some "eventData" →
      extractEncryptedEventData B rounds contentType (.bytes form.render) maxBodyBytes = some outcome →
      ∃ e, outcome = .error e := by
  refine ⟨exists_extract B, ?_, ?_, ?_, ?_⟩
  · intro rounds form contentType text limit outcome ok written single given fits h
    exact extract_form ok written single given fits h
  · intro rounds contentType rawBody maxBodyBytes outcome eventData parameters kind h
    exact extract_multipart_iff kind h
  · intro rounds contentType rawBody maxBodyBytes outcome parameters bytes front first middle second back kind body holds
      one two h
    exact extract_twice kind body holds one two h
  · intro rounds form contentType maxBodyBytes outcome front first middle second back ok written parts one two h
    exact extract_form_twice ok written parts one two h

/-! ## A form with one part -/

def plainBuiltins : BodyBuiltins where
  decode bytes := String.ofList ((bytes.toByteArray.utf8Decode?).getD #[]).toList
  decode_utf8 text := by
    have decoded : (utf8 text).toByteArray.utf8Decode? = some text.toArray := List.utf8Decode?_utf8Encode
    rw [decoded, Option.getD_some]
  letters := .ascii
  parseJson _ := none
  formValues _ _ := []

def eventDataPart (content : List UInt8) : FormPart where
  before := []
  dispositionName := "Content-Disposition".toList
  gap := [' ']
  kind := "form-data".toList
  parameters := [⟨[' '], "name".toList, "eventData".toList, true⟩]
  after := [⟨"Content-Type".toList, " text/plain".toList⟩]
  content

def eventDataForm (content : List UInt8) : MultipartForm := ⟨"b".toList, [eventDataPart content], true⟩

theorem eventDataPart_headers : (∀ header ∈ (eventDataPart []).headers, header.WellFormed) ∧
      ((eventDataPart []).headers.map (FormHeader.key plainBuiltins)).Nodup ∧
      (eventDataPart []).disposition.key plainBuiltins = "content-disposition" := by decide

theorem eventDataPart_disposition : IsBlank (eventDataPart []).gap ∧ (eventDataPart []).kind ≠ [] ∧
      IsTrimmed (eventDataPart []).kind ∧ ';' ∉ (eventDataPart []).kind ∧
      plainBuiltins.letters.toLowerCase (String.ofList (eventDataPart []).kind) = "form-data" ∧
      (∀ parameter ∈ (eventDataPart []).parameters, parameter.WellFormed) ∧
      ((eventDataPart []).parameters.map fun parameter =>
        plainBuiltins.letters.toLowerCase (String.ofList parameter.key)).Nodup ∧
      (eventDataPart []).lookup plainBuiltins "name" = some "eventData" ∧
      (eventDataPart []).lookup plainBuiltins "filename" = none := by decide

theorem eventDataForm_wellFormed {content : List UInt8} (free : ¬ crlf ++ delimiterOf "b" <:+: content) :
    (eventDataForm content).WellFormed plainBuiltins := by
  obtain ⟨each, keys, disposition⟩ := eventDataPart_headers
  obtain ⟨gap, given, trimmed, plain, form, parameters, names, name, -⟩ := eventDataPart_disposition
  have boundary : BoundaryWellFormed "b".toList := ⟨by decide, by decide, by decide, by decide⟩
  refine ⟨boundary, ?_⟩
  intro part mem
  obtain rfl := List.mem_singleton.mp mem
  exact ⟨each, keys, disposition, gap, given, trimmed, plain, form, ⟨parameters, names⟩,
    ⟨"eventData", name, by decide⟩, free⟩

theorem eventDataForm_single (content : List UInt8) : (eventDataForm content).Single plainBuiltins content :=
  have ⟨_, _, _, _, _, _, _, name, filename⟩ := eventDataPart_disposition
  ⟨by simp [eventDataForm], [], eventDataPart content, [], rfl, name, filename, rfl, nofun⟩

def eventDataType : String := "multipart/form-data; boundary=b"

theorem eventDataType_written : FormContentType plainBuiltins "b".toList eventDataType :=
  ⟨"multipart/form-data".toList, [⟨[' '], "boundary".toList, "b".toList, false⟩], by decide, by decide,
    by decide, by decide, by decide, ⟨by decide, by decide⟩, by decide⟩

theorem secret_extracted : ∃ outcome,
    extractEncryptedEventData plainBuiltins 33 eventDataType (.bytes (eventDataForm (utf8 "secret".toList)).render)
      (some 1048576) = some outcome ∧ outcome = .ok "secret" := by
  have law := extractEncryptedEventData_law plainBuiltins
  obtain ⟨outcome, done⟩ := law.1 eventDataType (.bytes (eventDataForm (utf8 "secret".toList)).render) (some 1048576)
  have free : ¬ crlf ++ delimiterOf "b" <:+: utf8 "secret".toList := by decide
  exact ⟨outcome, done, law.2.1 33 (eventDataForm (utf8 "secret".toList)) eventDataType "secret".toList 1048576 outcome
    (eventDataForm_wellFormed free) eventDataType_written (eventDataForm_single _) (by decide)
    (by decide) done⟩

/-- A form whose one `eventData` is blank is refused. -/
theorem blank_refused : (eventDataForm []).WellFormed plainBuiltins ∧ (eventDataForm []).Single plainBuiltins [] ∧
    ∀ rounds outcome, extractEncryptedEventData plainBuiltins rounds eventDataType (.bytes (eventDataForm []).render)
      (some 1048576) = some outcome → outcome ≠ .ok "" := by
  refine ⟨eventDataForm_wellFormed (by decide), eventDataForm_single [], ?_⟩
  rintro rounds outcome done rfl
  obtain ⟨parameters, kind, -⟩ := parseContentType_form eventDataType_written
  obtain ⟨body, parts, -, -, -, given⟩ := (extract_multipart_iff kind done).mp rfl
  exact given (by decide)

end FullManagedBi.Webhook
