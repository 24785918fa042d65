import FullManagedBi.Webhook.Payload

/-!
# What the multipart scanner accepts

A body is made of parts (`Holds`): each is a block of headers up to its first blank line, and a content up to the first
delimiter behind it. There is at most one way to read a body so (`holds_unique`). The scanner ends within 33 rounds
(`exists_scanParts`), and what it returns is what the parts of the body say (`scanParts_ok_iff`): exactly one part is named
`eventData`, and it is no file.
-/

namespace FullManagedBi.Webhook

open Lib

variable {B : BodyBuiltins} {delimiter bytes : List UInt8} {scan : MultipartScan}

/-! ## The parts of a body -/

/-- A part: the block of its headers, and its content. -/
structure RawPart where
  head : List UInt8
  content : List UInt8

inductive Holds (delimiter : List UInt8) : List UInt8 → List RawPart → Prop
  | close {ending} (closed : ending = [] ∨ ending = crlf) : Holds delimiter (dashes ++ ending) []
  | part {bytes behind head content rest parts} (headers : cutAt (crlf ++ crlf) bytes = some (head, behind))
      (body : cutAt (crlf ++ delimiter) behind = some (content, rest)) (later : Holds delimiter rest parts) :
      Holds delimiter (crlf ++ bytes) (⟨head, content⟩ :: parts)

variable {parts : List RawPart}

theorem holds_dashes {ending : List UInt8} :
    Holds delimiter (dashes ++ ending) parts ↔ (ending = [] ∨ ending = crlf) ∧ parts = [] := by
  constructor
  · intro h
    generalize same : dashes ++ ending = bytes at h
    cases h with
    | close closed =>
      obtain rfl := List.append_cancel_left same
      exact ⟨closed, rfl⟩
    | part headers body later => exact nomatch (List.cons.inj same).1
  · rintro ⟨closed, rfl⟩
    exact .close closed

theorem holds_crlf : Holds delimiter (crlf ++ bytes) parts ↔
    ∃ head behind content rest later, cutAt (crlf ++ crlf) bytes = some (head, behind) ∧
      cutAt (crlf ++ delimiter) behind = some (content, rest) ∧ Holds delimiter rest later ∧
      parts = ⟨head, content⟩ :: later := by
  constructor
  · intro h
    generalize same : crlf ++ bytes = whole at h
    cases h with
    | close closed => exact nomatch (List.cons.inj same).1
    | part headers body later =>
      obtain rfl := List.append_cancel_left same
      exact ⟨_, _, _, _, _, headers, body, later, rfl⟩
  · rintro ⟨head, behind, content, rest, later, headers, body, h, rfl⟩
    exact .part headers body h

theorem holds_unique {left right : List RawPart} (h : Holds delimiter bytes left) (k : Holds delimiter bytes right) :
    left = right := by
  induction h generalizing right with
  | close closed => exact (holds_dashes.mp k).2.symm
  | part headers body _ ih =>
    obtain ⟨_, _, _, _, _, others, other, later, rfl⟩ := (holds_crlf).mp k
    obtain ⟨rfl, rfl⟩ := Prod.mk.inj (Option.mem_unique headers others)
    obtain ⟨rfl, rfl⟩ := Prod.mk.inj (Option.mem_unique body other)
    rw [ih later]

/-! ## Names -/

/-- The headers of a part give it these parameters and this name. -/
def Named (B : BodyBuiltins) (part : RawPart) (parameters : OrderedMap String String) (name : String) : Prop :=
  ∃ headers, readHeaders B part.head = .ok headers ∧
    requireName (parseDisposition B (headers.get? "content-disposition")) = .ok (parameters, name)

def IsEventData (B : BodyBuiltins) (part : RawPart) : Prop := ∃ parameters, Named B part parameters "eventData"

/-- The part is named `eventData`, and it is no file. -/
def IsScalar (B : BodyBuiltins) (part : RawPart) : Prop :=
  ∃ parameters, Named B part parameters "eventData" ∧ parameters.get? "filename" = none

theorem named_unique {part : RawPart} {parameters others : OrderedMap String String} {name other : String}
    (h : Named B part parameters name) (k : Named B part others other) : parameters = others ∧ name = other := by
  obtain ⟨headers, read, named⟩ := h
  obtain ⟨headers', read', named'⟩ := k
  obtain rfl := Except.ok.inj (read.symm.trans read')
  exact Prod.mk.inj (Except.ok.inj (named.symm.trans named'))

/-! ## The loop -/

/-- What is known of `eventData` behind these parts. -/
inductive Takes (B : BodyBuiltins) : Option String → List RawPart → Option String → Prop
  | nil {eventData} : Takes B eventData [] eventData
  | cons {eventData after result part parts parameters name} (named : Named B part parameters name)
      (taken : takeEventData B eventData parameters name part.content = .ok after)
      (later : Takes B after parts result) : Takes B eventData (part :: parts) result

theorem scanPart_ok_iff {next : MultipartScan} : scanPart B delimiter scan bytes = .ok next ↔
    ∃ head behind content rest parameters name eventData, cutAt (crlf ++ crlf) bytes = some (head, behind) ∧
      cutAt (crlf ++ delimiter) behind = some (content, rest) ∧ scan.partCount + 1 ≤ 32 ∧
      Named B ⟨head, content⟩ parameters name ∧
      takeEventData B scan.eventData parameters name content = .ok eventData ∧
      next = ⟨rest, eventData, scan.partCount + 1⟩ := by
  unfold scanPart
  constructor
  · intro done
    split at done
    · exact nomatch done
    · next head behind headersEnd =>
      obtain ⟨headers, read, done⟩ := bind_eq_ok done
      split at done
      · exact nomatch done
      · next content rest contentEnd =>
        obtain ⟨room, done⟩ := check_ok_iff.mp done
        obtain ⟨⟨parameters, name⟩, named, done⟩ := bind_eq_ok done
        obtain ⟨eventData, taken, done⟩ := bind_eq_ok done
        rw [refuse_eq_ok, not_lt] at room
        exact ⟨head, behind, content, rest, parameters, name, eventData, headersEnd, contentEnd, room,
          ⟨headers, read, named⟩, taken, (Except.ok.inj done).symm⟩
  · rintro ⟨head, behind, content, rest, parameters, name, eventData, headersEnd, contentEnd, room,
      ⟨headers, read, named⟩, taken, rfl⟩
    simp only [headersEnd]
    simp only [read, bind, Except.bind, contentEnd, refuse, if_neg (not_lt.mpr room), named, taken]
    rfl

variable {rounds : Nat}

theorem exists_scanParts (le : scan.partCount ≤ 32) (enough : 32 < scan.partCount + rounds) :
    ∃ outcome, scanParts B delimiter rounds scan = some outcome := by
  induction rounds generalizing scan with
  | zero => omega
  | succ rounds ih =>
    unfold scanParts
    split
    · dsimp only
      split
      · exact ⟨_, rfl⟩
      · exact ⟨_, rfl⟩
    · split
      · split
        · exact ⟨_, rfl⟩
        · next next_ done =>
          obtain ⟨_, _, _, _, _, _, _, _, _, room, _, _, rfl⟩ := (scanPart_ok_iff).mp done
          apply ih
          · exact room
          · change 32 < scan.partCount + 1 + rounds
            omega
      · exact ⟨_, rfl⟩

/-- **What the loop returns** is what the parts say that the bytes hold. -/
theorem scanParts_ok_iff {outcome : Except JsError (Option String)} {result : Option String}
    (le : scan.partCount ≤ 32) (h : scanParts B delimiter rounds scan = some outcome) : outcome = .ok result ↔
      ∃ parts, Holds delimiter scan.rest parts ∧ scan.partCount + parts.length ≤ 32 ∧
        Takes B scan.eventData parts result := by
  induction rounds generalizing scan with
  | zero => exact nomatch h
  | succ rounds ih =>
    unfold scanParts at h
    split at h
    · next closing =>
      obtain ⟨ending, same⟩ := closing
      rw [← same]
      rw [← same, show (dashes ++ ending).drop 2 = ending from rfl] at h
      simp only [holds_dashes]
      dsimp only at h
      split at h
      · next closed =>
        obtain rfl := Option.some.inj h
        constructor
        · intro done
          obtain rfl := Except.ok.inj done
          exact ⟨[], ⟨closed, rfl⟩, le, .nil⟩
        · rintro ⟨parts, ⟨-, rfl⟩, -, takes⟩
          cases takes
          rfl
      · next malformed =>
        obtain rfl := Option.some.inj h
        refine iff_of_false nofun ?_
        rintro ⟨parts, ⟨closed, -⟩, -⟩
        exact malformed closed
    · next open_ =>
      split at h
      · next line =>
        obtain ⟨bytes, same⟩ := line
        rw [← same]
        rw [← same, show (crlf ++ bytes).drop 2 = bytes from rfl] at h
        simp only [holds_crlf]
        split at h
        · next e failed =>
          obtain rfl := Option.some.inj h
          refine iff_of_false nofun ?_
          rintro ⟨parts, ⟨head, behind, content, rest, later, headers, body, -, rfl⟩, room, takes⟩
          cases takes with
          | cons named taken later =>
            rw [List.length_cons] at room
            have done := (scanPart_ok_iff).mpr
              ⟨head, behind, content, rest, _, _, _, headers, body, by omega, named, taken, rfl⟩
            exact nomatch failed.symm.trans done
        · next next_ done =>
          obtain ⟨head, behind, content, rest, parameters, name, eventData, headers, body, room, named, taken, rfl⟩ :=
            (scanPart_ok_iff).mp done
          rw [ih room h]
          constructor
          · rintro ⟨parts, holds, fits, takes⟩
            refine ⟨_, ⟨head, behind, content, rest, parts, headers, body, holds, rfl⟩, ?_, .cons named taken takes⟩
            rw [List.length_cons]
            change scan.partCount + 1 + parts.length ≤ 32 at fits
            omega
          · rintro ⟨_, ⟨head', behind', content', rest', parts, headers', body', holds, rfl⟩, fits, takes⟩
            obtain ⟨rfl, rfl⟩ := Prod.mk.inj (Option.mem_unique headers headers')
            obtain ⟨rfl, rfl⟩ := Prod.mk.inj (Option.mem_unique body body')
            cases takes with
            | cons others other later =>
              obtain ⟨rfl, rfl⟩ := named_unique named others
              obtain rfl := Except.ok.inj (taken.symm.trans other)
              refine ⟨parts, holds, ?_, later⟩
              rw [List.length_cons] at fits
              change scan.partCount + 1 + parts.length ≤ 32
              omega
      · next other =>
        obtain rfl := Option.some.inj h
        refine iff_of_false nofun ?_
        rintro ⟨parts, holds, -⟩
        generalize scan.rest = bytes at holds open_ other
        cases holds with
        | close closed => exact open_ (List.prefix_append _ _)
        | part headers body later => exact other (List.prefix_append _ _)

/-! ## One part is named `eventData` -/

theorem takeEventData_ok_iff {eventData after : Option String} {parameters : OrderedMap String String} {name : String}
    {content : List UInt8} : takeEventData B eventData parameters name content = .ok after ↔
      (name = "eventData" ∧ parameters.get? "filename" = none ∧ eventData = none ∧ after = some (B.decode content)) ∨
      (name ≠ "eventData" ∧ after = eventData) := by
  unfold takeEventData
  split
  · next here =>
    split
    · next refused =>
      refine iff_of_false nofun ?_
      rintro (⟨-, scalar, none_yet, -⟩ | ⟨other, -⟩)
      · rw [scalar, none_yet] at refused
        exact refused.elim nofun nofun
      · exact other here
    · next allowed =>
      rw [not_or, Option.not_isSome_iff_eq_none, Option.not_isSome_iff_eq_none] at allowed
      simp [here, allowed, eq_comm]
  · next other => simp [other, eq_comm]

variable {eventData : String}

theorem takes_of_known {result : Option String} : Takes B (some eventData) parts result ↔
      (∀ part ∈ parts, ∃ parameters name, Named B part parameters name ∧ name ≠ "eventData") ∧
        result = some eventData := by
  constructor
  · intro h
    generalize same : some eventData = known at h
    induction h with
    | nil => exact ⟨nofun, rfl⟩
    | cons named taken later ih =>
      subst same
      rcases (takeEventData_ok_iff).mp taken with ⟨-, -, absurd_, -⟩ | ⟨other, kept⟩
      · exact nomatch absurd_
      · obtain ⟨rest, result_eq⟩ := ih kept.symm
        exact ⟨List.forall_mem_cons.mpr ⟨⟨_, _, named, other⟩, rest⟩, result_eq.trans kept⟩
  · rintro ⟨others, rfl⟩
    induction parts with
    | nil => exact .nil
    | cons part parts ih =>
      obtain ⟨⟨parameters, name, named, other⟩, rest⟩ := List.forall_mem_cons.mp others
      exact .cons named (takeEventData_ok_iff.mpr (.inr ⟨other, rfl⟩)) (ih rest)

/-- **Exactly one part is named `eventData`**, and it is no file. -/
theorem takes_iff : Takes B none parts (some eventData) ↔
    ∃ before part after, parts = before ++ part :: after ∧ IsScalar B part ∧ eventData = B.decode part.content ∧
      ∀ other ∈ before ++ after, ∃ parameters name, Named B other parameters name ∧ name ≠ "eventData" := by
  constructor
  · intro h
    generalize shape : (none : Option String) = start at h
    generalize goal : some eventData = result at h
    induction h with
    | nil => exact nomatch shape.trans goal.symm
    | @cons known taken_ result part parts parameters name named taken later ih =>
      subst shape goal
      rcases (takeEventData_ok_iff).mp taken with ⟨rfl, scalar, -, rfl⟩ | ⟨other, kept⟩
      · obtain ⟨others, same⟩ := (takes_of_known).mp later
        exact ⟨[], part, parts, rfl, ⟨parameters, named, scalar⟩, Option.some.inj same, others⟩
      · obtain ⟨before, found, after, rfl, scalar, same, others⟩ := ih kept.symm rfl
        exact ⟨part :: before, found, after, rfl, scalar, same,
          List.forall_mem_cons.mpr ⟨⟨parameters, name, named, other⟩, others⟩⟩
  · rintro ⟨before, part, after, rfl, ⟨parameters, named, scalar⟩, rfl, others⟩
    rw [List.forall_mem_append] at others
    induction before with
    | nil =>
      exact .cons named (takeEventData_ok_iff.mpr (.inl ⟨rfl, scalar, rfl, rfl⟩)) (takes_of_known.mpr ⟨others.2, rfl⟩)
    | cons first before ih =>
      obtain ⟨⟨parameters', name, named', other⟩, rest⟩ := List.forall_mem_cons.mp others.1
      exact .cons named' (takeEventData_ok_iff.mpr (.inr ⟨other, rfl⟩)) (ih ⟨rest, others.2⟩)

/-! ## The body -/

/-- What a body says: at most 32 parts, of which exactly one is named `eventData`, and is no file; and what that part
holds. -/
structure Reads (B : BodyBuiltins) (boundary : String) (body : List UInt8) (parts : List RawPart) (eventData : String) :
    Prop where
  holds : ∃ bytes, body = delimiterOf boundary ++ bytes ∧ Holds (delimiterOf boundary) bytes parts
  few : parts.length ≤ 32
  single : ∃ before part after, parts = before ++ part :: after ∧ IsScalar B part ∧ eventData = B.decode part.content ∧
    ∀ other ∈ before ++ after, ∃ parameters name, Named B other parameters name ∧ name ≠ "eventData"

theorem requireEventData_ok_iff {eventData : Option String} {text : String} :
    requireEventData eventData = .ok text ↔ eventData = some text ∧ jsTrim text ≠ "" := by
  cases eventData with
  | none => exact iff_of_false nofun fun both => nomatch both.1
  | some value =>
    simp only [requireEventData, Option.some.injEq]
    split
    · next blank =>
      refine iff_of_false nofun ?_
      rintro ⟨rfl, given⟩
      exact given blank
    · next given =>
      constructor
      · intro done
        obtain rfl := Except.ok.inj done
        exact ⟨rfl, given⟩
      · rintro ⟨rfl, -⟩
        rfl

/-- **What the scanner accepts**: exactly the bodies that say it. -/
theorem multipartEventData_ok_iff {body : List UInt8} {boundaryValue : Option String} {outcome : Except JsError String}
    (h : multipartEventData B rounds body boundaryValue = some outcome) : outcome = .ok eventData ↔
      invalidBoundary (jsTrim (boundaryValue.getD "")) = false ∧
        (∃ parts, Reads B (jsTrim (boundaryValue.getD "")) body parts eventData) ∧ jsTrim eventData ≠ "" := by
  unfold multipartEventData at h
  generalize jsTrim (boundaryValue.getD "") = boundary at h ⊢
  dsimp only at h
  split at h
  · next invalid =>
    obtain rfl := Option.some.inj h
    exact iff_of_false nofun fun all => absurd invalid (Bool.eq_false_iff.mp all.1)
  · next valid =>
    rw [Bool.not_eq_true] at valid
    split at h
    · next opening =>
      obtain ⟨bytes, rfl⟩ := opening
      rw [List.drop_left] at h
      obtain ⟨scanned, done, rfl⟩ := Option.map_eq_some_iff.mp h
      rw [bind_eq_ok_iff]
      constructor
      · rintro ⟨found, rfl, required⟩
        obtain ⟨rfl, given⟩ := (requireEventData_ok_iff).mp required
        obtain ⟨parts, holds, few, takes⟩ := (scanParts_ok_iff (Nat.zero_le 32) done).mp rfl
        rw [Nat.zero_add] at few
        exact ⟨valid, ⟨parts, ⟨bytes, rfl, holds⟩, few, (takes_iff).mp takes⟩, given⟩
      · rintro ⟨-, ⟨parts, ⟨others, same, holds⟩, few, single⟩, given⟩
        obtain rfl := List.append_cancel_left same
        refine ⟨some eventData, ?_, (requireEventData_ok_iff).mpr ⟨rfl, given⟩⟩
        exact (scanParts_ok_iff (Nat.zero_le 32) done).mpr ⟨parts, holds, by rwa [Nat.zero_add], (takes_iff).mpr single⟩
    · next other =>
      obtain rfl := Option.some.inj h
      refine iff_of_false nofun ?_
      rintro ⟨-, ⟨parts, ⟨bytes, rfl, -⟩, -⟩, -⟩
      exact other (List.prefix_append _ _)

theorem exists_multipartEventData (B : BodyBuiltins) (body : List UInt8) (boundaryValue : Option String) :
    ∃ outcome, multipartEventData B 33 body boundaryValue = some outcome := by
  unfold multipartEventData
  dsimp only
  split
  · exact ⟨_, rfl⟩
  · split
    · obtain ⟨scanned, done⟩ : ∃ scanned, scanParts B (delimiterOf (jsTrim (boundaryValue.getD ""))) 33
          { rest := body.drop (delimiterOf (jsTrim (boundaryValue.getD ""))).length } = some scanned :=
        exists_scanParts (Nat.zero_le 32) (show 32 < 0 + 33 by decide)
      exact ⟨_, by rw [done, Option.map_some]⟩
    · exact ⟨_, rfl⟩

/-- A body in which two parts are named `eventData` is not accepted. -/
theorem not_reads_of_two {boundary : String} {bytes : List UInt8} {front middle back : List RawPart}
    {first second : RawPart} (holds : Holds (delimiterOf boundary) bytes (front ++ first :: middle ++ second :: back))
    (one : IsEventData B first) (two : IsEventData B second) (parts : List RawPart) (eventData : String) :
    ¬ Reads B boundary (delimiterOf boundary ++ bytes) parts eventData := by
  rintro ⟨⟨others, same, holds'⟩, -, before, part, after, rfl, -, -, apart⟩
  obtain rfl := List.append_cancel_left same
  have parts_eq := holds_unique holds holds'
  have unnamed : ∀ other ∈ before ++ after, ¬ IsEventData B other := by
    rintro other mem ⟨parameters, named⟩
    obtain ⟨parameters', name, named', different⟩ := apart other mem
    exact different (named_unique named' named).2
  -- What is named `eventData` is at the place of the one part.
  have placed : ∀ i other, (before ++ part :: after)[i]? = some other → IsEventData B other → i = before.length := by
    intro i other there named
    by_contra elsewhere
    apply unnamed other _ named
    have rest : (before ++ part :: after).eraseIdx before.length = before ++ after := by
      rw [List.eraseIdx_append_of_length_le le_rfl, Nat.sub_self, List.eraseIdx_cons_zero]
    rw [← rest, List.mem_eraseIdx_iff_getElem?]
    exact ⟨i, elsewhere, there⟩
  rw [← parts_eq] at placed
  have here := placed front.length first (by simp) one
  have there := placed (front.length + (middle.length + 1)) second (by simp) two
  omega

end FullManagedBi.Webhook
