import FullManagedBi.Lib.JsonReader

/-!
# Scanning JSON for strings and brackets

A text is scanned for its strings and its brackets without being read (`scan`). What is read as a value begins and ends
outside of strings, and its brackets match (`balanced_of_readValue`).

**`parseJson_nested_eq_none`**: no end of the text of an object that begins at a later opening brace is a JSON text. Such a
brace stands inside a bracket, so that one bracket too many is closed behind it, or inside a string, so that what is a
string behind it and what is none are the other way round.
-/

namespace Lib

/-! ## Scanning -/

/-- Where a scan is: outside or inside of a string or behind a backslash, with the brackets that are open. -/
inductive Scan where
  | outside (depth : Nat)
  | inside (depth : Nat)
  | escaped (depth : Nat)
  deriving DecidableEq

/-- The scan of a character: no string begins with a backslash, and no bracket closes what is not open. -/
def scanChar : Scan → Char → Option Scan
  | .outside depth, c =>
    if c = '"' then some (.inside depth)
    else if c = '\x7b' ∨ c = '[' then some (.outside (depth + 1))
    else if c = '\x7d' ∨ c = ']' then if depth = 0 then none else some (.outside (depth - 1))
    else if c = '\\' then none
    else some (.outside depth)
  | .inside depth, c =>
    if c = '"' then some (.outside depth) else if c = '\\' then some (.escaped depth) else some (.inside depth)
  | .escaped depth, c => if c = 'u' ∨ (simpleEscape? c).isSome then some (.inside depth) else none

def scan : Scan → List Char → Option Scan
  | at_, [] => some at_
  | at_, c :: text => (scanChar at_ c).bind fun next => scan next text

theorem scan_append (start : Scan) (front back : List Char) :
    scan start (front ++ back) = (scan start front).bind fun next => scan next back := by
  induction front generalizing start with
  | nil => rfl
  | cons c front ih =>
    rw [List.cons_append, scan, scan]
    cases scanChar start c with
    | none => rfl
    | some next => exact ih next

/-- A text in which brackets match, and that begins and ends outside of strings. -/
def Balanced (text : List Char) : Prop := ∀ depth, scan (.outside depth) text = some (.outside depth)

theorem Balanced.append {front back : List Char} (first : Balanced front) (second : Balanced back) :
    Balanced (front ++ back) := by
  intro depth
  rw [scan_append, first, Option.bind_some, second]

theorem balanced_nil : Balanced [] := fun _ => rfl

/-- The character is neither a quote, a bracket nor a backslash. -/
def isNeutral (c : Char) : Bool :=
  !(c = '"' || c = '\x7b' || c = '[' || c = '\x7d' || c = ']' || c = '\\')

variable {c : Char}

theorem scanChar_neutral (neutral : isNeutral c = true) (depth : Nat) :
    scanChar (.outside depth) c = some (.outside depth) := by
  unfold isNeutral at neutral
  simp only [Bool.not_eq_true', Bool.or_eq_false_iff, decide_eq_false_iff_not] at neutral
  obtain ⟨⟨⟨⟨⟨quote, brace⟩, bracket⟩, close⟩, closing⟩, backslash⟩ := neutral
  simp [scanChar, quote, brace, bracket, close, closing, backslash]

variable {text : List Char}

theorem balanced_neutral (neutral : ∀ c ∈ text, isNeutral c = true) : Balanced text := by
  intro depth
  induction text with
  | nil => rfl
  | cons c text ih =>
    rw [scan, scanChar_neutral (neutral c List.mem_cons_self), Option.bind_some]
    exact ih fun d mem => neutral d (List.mem_cons_of_mem _ mem)

theorem balanced_bracket {first last : Char} (opening : first = '\x7b' ∨ first = '[')
    (closing : last = '\x7d' ∨ last = ']') (balanced : Balanced text) : Balanced (first :: (text ++ [last])) := by
  intro depth
  have begins : scanChar (.outside depth) first = some (.outside (depth + 1)) := by
    rcases opening with rfl | rfl <;> rfl
  have ends : scanChar (.outside (depth + 1)) last = some (.outside depth) := by
    rcases closing with rfl | rfl <;> simp [scanChar]
  rw [scan, begins, Option.bind_some, scan_append, balanced, Option.bind_some, scan, ends, Option.bind_some, scan]

/-! ## What is read is balanced -/

theorem skipSpaces_eq (text : List Char) :
    ∃ spaces, text = spaces ++ skipSpaces text ∧ ∀ c ∈ spaces, isJsonSpace c = true :=
  ⟨text.takeWhile isJsonSpace, (List.takeWhile_append_dropWhile ..).symm, fun _ mem => List.mem_takeWhile_imp mem⟩

theorem isNeutral_of_isJsonSpace (space : isJsonSpace c = true) : isNeutral c = true := by
  unfold isJsonSpace at space
  simp only [Bool.or_eq_true, decide_eq_true_eq] at space
  rcases space with ((rfl | rfl) | rfl) | rfl <;> rfl

theorem not_quote_of_hexDigit? {digit : Nat} (hex : hexDigit? c = some digit) : c ≠ '"' ∧ c ≠ '\\' := by
  have quote : hexDigit? '"' = none := by decide
  have backslash : hexDigit? '\\' = none := by decide
  constructor
  · rintro rfl
    rw [quote] at hex
    cases hex
  · rintro rfl
    rw [backslash] at hex
    cases hex

theorem scanChar_hexDigit {digit : Nat} (hex : hexDigit? c = some digit) (depth : Nat) :
    scanChar (.inside depth) c = some (.inside depth) := by
  obtain ⟨quote, backslash⟩ := not_quote_of_hexDigit? hex
  simp [scanChar, quote, backslash]

theorem scan_of_readString {text behind : List Char} {units : List Nat}
    (read : readString text = some (units, behind)) :
    ∃ taken, text = taken ++ behind ∧ ∀ depth, scan (.inside depth) taken = some (.outside depth) := by
  fun_induction readString text generalizing units with
  | case1 => cases read
  | case2 rest =>
    obtain ⟨rfl, rfl⟩ := Prod.mk.inj (Option.some.inj read)
    exact ⟨['"'], rfl, fun depth => rfl⟩
  | case3 a b c d rest unit units' behind' later hex ih =>
    obtain ⟨rfl, rfl⟩ := Prod.mk.inj (Option.some.inj read)
    obtain ⟨taken, rfl, out⟩ := ih later
    refine ⟨'\\' :: 'u' :: a :: b :: c :: d :: taken, rfl, fun depth => ?_⟩
    unfold hexUnit? at hex
    simp only [bind, Option.bind_eq_some_iff] at hex
    obtain ⟨_, first, _, second, _, third, _, fourth, -⟩ := hex
    have start : scanChar (.inside depth) '\\' = some (.escaped depth) := rfl
    have letter : scanChar (.escaped depth) 'u' = some (.inside depth) := rfl
    simp only [scan, start, letter, scanChar_hexDigit first, scanChar_hexDigit second, scanChar_hexDigit third,
      scanChar_hexDigit fourth, Option.bind_some, out]
  | case4 => cases read
  | case5 c rest notUnicode unit units' behind' later escape ih =>
    obtain ⟨rfl, rfl⟩ := Prod.mk.inj (Option.some.inj read)
    obtain ⟨taken, rfl, out⟩ := ih later
    refine ⟨'\\' :: c :: taken, rfl, fun depth => ?_⟩
    have start : scanChar (.inside depth) '\\' = some (.escaped depth) := rfl
    have letter : scanChar (.escaped depth) c = some (.inside depth) := by simp [scanChar, escape]
    simp only [scan, start, letter, Option.bind_some, out]
  | case6 => cases read
  | case7 => cases read
  | case8 c rest notQuote notUnicode notEscape plain units' behind' later ih =>
    obtain ⟨rfl, rfl⟩ := Prod.mk.inj (Option.some.inj read)
    obtain ⟨taken, rfl, out⟩ := ih later
    refine ⟨c :: taken, rfl, fun depth => ?_⟩
    have quote : c ≠ '"' := notQuote
    have backslash : c ≠ '\\' := fun same => plain (.inr same)
    have stays : scanChar (.inside depth) c = some (.inside depth) := by simp [scanChar, quote, backslash]
    rw [scan, stays, Option.bind_some, out]
  | case9 => cases read

theorem isNeutral_of_isDigit (digit : c.isDigit = true) : isNeutral c = true := by
  have bounds : '0' ≤ c ∧ c ≤ '9' := by simpa [Char.isDigit, Char.le_def] using digit
  have other : ∀ d : Char, d < '0' ∨ '9' < d → c ≠ d := by
    rintro d (low | high) rfl
    · exact absurd bounds.1 (not_le.mpr low)
    · exact absurd bounds.2 (not_le.mpr high)
  unfold isNeutral
  simp [other '"' (.inl (by decide)), other '\x7b' (.inr (by decide)), other '[' (.inr (by decide)),
    other '\x7d' (.inr (by decide)), other ']' (.inr (by decide)), other '\\' (.inr (by decide))]

/-- What is taken from the front of a text, all of it neutral. -/
def Takes (taken text behind : List Char) : Prop := text = taken ++ behind ∧ ∀ c ∈ taken, isNeutral c = true

theorem Takes.nil (text : List Char) : Takes [] text text := ⟨rfl, nofun⟩

theorem Takes.cons {taken text behind : List Char} (neutral : isNeutral c = true)
    (later : Takes taken text behind) : Takes (c :: taken) (c :: text) behind :=
  ⟨congrArg _ later.1, List.forall_mem_cons.mpr ⟨neutral, later.2⟩⟩

theorem Takes.append {first second text middle behind : List Char} (front : Takes first text middle)
    (back : Takes second middle behind) : Takes (first ++ second) text behind := by
  refine ⟨?_, fun c mem => (List.mem_append.mp mem).elim (front.2 c) (back.2 c)⟩
  rw [front.1, back.1, List.append_assoc]

variable {read : List Char × List Char}

theorem takes_readDigits (digits : readDigits text = some read) : Takes read.1 text read.2 := by
  unfold readDigits at digits
  rw [List.span_eq_takeWhile_dropWhile] at digits
  split at digits
  · cases digits
  · obtain rfl := Option.some.inj digits
    exact ⟨(List.takeWhile_append_dropWhile ..).symm,
      fun c mem => isNeutral_of_isDigit (List.mem_takeWhile_imp mem)⟩

theorem takes_readSign (text : List Char) : Takes (readSign text).1 text (readSign text).2 := by
  unfold readSign
  split
  · exact (Takes.nil _).cons rfl
  · exact Takes.nil _

theorem takes_readWhole (whole : readWhole text = some read) : Takes read.1 text read.2 := by
  unfold readWhole at whole
  split at whole
  · obtain rfl := Option.some.inj whole
    exact (Takes.nil _).cons rfl
  · exact takes_readDigits whole

theorem takes_readDecimals (decimals : readDecimals text = some read) : Takes read.1 text read.2 := by
  unfold readDecimals at decimals
  split at decimals
  · obtain ⟨digits, found, rfl⟩ := Option.map_eq_some_iff.mp decimals
    exact (takes_readDigits found).cons rfl
  · obtain rfl := Option.some.inj decimals
    exact Takes.nil _

theorem takes_readPower (power : readPower text = some read) : Takes read.1 text read.2 := by
  unfold readPower at power
  split at power
  · obtain ⟨digits, found, rfl⟩ := Option.map_eq_some_iff.mp power
    exact (takes_readDigits found).cons rfl
  · obtain ⟨digits, found, rfl⟩ := Option.map_eq_some_iff.mp power
    exact (takes_readDigits found).cons rfl
  · exact takes_readDigits power

theorem takes_readExponent (exponent : readExponent text = some read) : Takes read.1 text read.2 := by
  unfold readExponent at exponent
  split at exponent
  · obtain ⟨power, found, rfl⟩ := Option.map_eq_some_iff.mp exponent
    exact (takes_readPower found).cons rfl
  · obtain ⟨power, found, rfl⟩ := Option.map_eq_some_iff.mp exponent
    exact (takes_readPower found).cons rfl
  · obtain rfl := Option.some.inj exponent
    exact Takes.nil _

theorem takes_readNumber (number : readNumber text = some read) : Takes read.1 text read.2 := by
  unfold readNumber at number
  obtain ⟨whole, foundWhole, number⟩ := Option.bind_eq_some_iff.mp number
  obtain ⟨decimals, foundDecimals, number⟩ := Option.bind_eq_some_iff.mp number
  obtain ⟨exponent, foundExponent, number⟩ := Option.bind_eq_some_iff.mp number
  obtain rfl := Option.some.inj number
  exact (takes_readSign text).append ((takes_readWhole foundWhole).append
    ((takes_readDecimals foundDecimals).append (takes_readExponent foundExponent)))

section Read

variable {numberOf : List Char → JsNumber}

/-- What was read of a value, of members and of items, with one unit less of fuel. -/
structure ReadsBalanced (numberOf : List Char → JsNumber) (fuel : Nat) : Prop where
  value : ∀ {text value behind}, readValue numberOf fuel text = some (value, behind) →
    ∃ taken, text = taken ++ behind ∧ Balanced taken
  members : ∀ {text members behind}, readMembers numberOf fuel text = some (members, behind) →
    ∃ taken, text = taken ++ '\x7d' :: behind ∧ Balanced taken
  items : ∀ {text items behind}, readItems numberOf fuel text = some (items, behind) →
    ∃ taken, text = taken ++ ']' :: behind ∧ Balanced taken

theorem balanced_skipSpaces (text : List Char) : ∃ spaces, text = spaces ++ skipSpaces text ∧ Balanced spaces := by
  obtain ⟨spaces, same, blank⟩ := skipSpaces_eq text
  exact ⟨spaces, same, balanced_neutral fun c mem => isNeutral_of_isJsonSpace (blank c mem)⟩

theorem balanced_quoted {quoted behind : List Char} {units : List Nat}
    (read : readString quoted = some (units, behind)) : ∃ taken, '"' :: quoted = taken ++ behind ∧ Balanced taken := by
  obtain ⟨taken, rfl, out⟩ := scan_of_readString read
  refine ⟨'"' :: taken, rfl, fun depth => ?_⟩
  have start : scanChar (.outside depth) '"' = some (.inside depth) := rfl
  rw [scan, start, Option.bind_some, out]

theorem balanced_behind {text rest taken : List Char} {c : Char} (first : skipSpaces text = c :: rest)
    (balanced : Balanced taken) (neutral : isNeutral c = true) :
    ∃ more, taken ++ text = more ++ rest ∧ Balanced more := by
  obtain ⟨spaces, same, blank⟩ := balanced_skipSpaces text
  refine ⟨taken ++ (spaces ++ [c]), ?_, balanced.append (blank.append (balanced_neutral ?_))⟩
  · rw [same, first]
    simp
  · intro d mem
    rwa [List.mem_singleton.mp mem]

variable {fuel : Nat} {text behind : List Char}

theorem balanced_value (smaller : ReadsBalanced numberOf fuel) {value : Json}
    (read : readValue numberOf (fuel + 1) text = some (value, behind)) :
    ∃ taken, text = taken ++ behind ∧ Balanced taken := by
  unfold readValue at read
  split at read
  · next rest =>
    obtain ⟨⟨units, after⟩, found, same⟩ := Option.map_eq_some_iff.mp read
    obtain ⟨rfl, rfl⟩ := Prod.mk.inj same
    exact balanced_quoted found
  · next rest =>
    obtain ⟨spaces, split, blank⟩ := balanced_skipSpaces rest
    split at read
    · next after first =>
      obtain ⟨rfl, rfl⟩ := Prod.mk.inj (Option.some.inj read)
      refine ⟨'\x7b' :: (spaces ++ ['\x7d']), ?_, balanced_bracket (.inl rfl) (.inl rfl) blank⟩
      rw [split, first]
      simp
    · next members notClosed =>
      obtain ⟨⟨fields, after⟩, found, same⟩ := Option.map_eq_some_iff.mp read
      obtain ⟨rfl, rfl⟩ := Prod.mk.inj same
      obtain ⟨taken, first, balanced⟩ := smaller.members found
      refine ⟨'\x7b' :: (spaces ++ taken ++ ['\x7d']), ?_, balanced_bracket (.inl rfl) (.inl rfl) (blank.append balanced)⟩
      rw [split, first]
      simp
  · next rest =>
    obtain ⟨spaces, split, blank⟩ := balanced_skipSpaces rest
    split at read
    · next after first =>
      obtain ⟨rfl, rfl⟩ := Prod.mk.inj (Option.some.inj read)
      refine ⟨'[' :: (spaces ++ [']']), ?_, balanced_bracket (.inr rfl) (.inr rfl) blank⟩
      rw [split, first]
      simp
    · next items notClosed =>
      obtain ⟨⟨values, after⟩, found, same⟩ := Option.map_eq_some_iff.mp read
      obtain ⟨rfl, rfl⟩ := Prod.mk.inj same
      obtain ⟨taken, first, balanced⟩ := smaller.items found
      refine ⟨'[' :: (spaces ++ taken ++ [']']), ?_, balanced_bracket (.inr rfl) (.inr rfl) (blank.append balanced)⟩
      rw [split, first]
      simp
  · obtain ⟨rfl, rfl⟩ := Prod.mk.inj (Option.some.inj read)
    exact ⟨['t', 'r', 'u', 'e'], rfl, balanced_neutral (List.all_eq_true.mp rfl)⟩
  · obtain ⟨rfl, rfl⟩ := Prod.mk.inj (Option.some.inj read)
    exact ⟨['f', 'a', 'l', 's', 'e'], rfl, balanced_neutral (List.all_eq_true.mp rfl)⟩
  · obtain ⟨rfl, rfl⟩ := Prod.mk.inj (Option.some.inj read)
    exact ⟨['n', 'u', 'l', 'l'], rfl, balanced_neutral (List.all_eq_true.mp rfl)⟩
  · obtain ⟨⟨digits, after⟩, found, same⟩ := Option.map_eq_some_iff.mp read
    obtain ⟨rfl, rfl⟩ := Prod.mk.inj same
    exact ⟨_, (takes_readNumber found).1, balanced_neutral (takes_readNumber found).2⟩

theorem balanced_members (smaller : ReadsBalanced numberOf fuel) {members : List (String × Json)}
    (read : readMembers numberOf (fuel + 1) text = some (members, behind)) :
    ∃ taken, text = taken ++ '\x7d' :: behind ∧ Balanced taken := by
  unfold readMembers at read
  split at read
  · next quoted =>
    split at read
    · cases read
    · next units afterName name =>
      obtain ⟨string, quotedIs, balancedName⟩ := balanced_quoted name
      rw [quotedIs]
      split at read
      · next rest colon =>
        obtain ⟨upToColon, colonIs, balancedColon⟩ := balanced_behind colon balancedName rfl
        obtain ⟨spaces, spacesAre, blank⟩ := balanced_skipSpaces rest
        rw [colonIs, spacesAre]
        split at read
        · cases read
        · next value afterValue found =>
          obtain ⟨written, valueIs, balancedValue⟩ := smaller.value found
          have upToValue := (balancedColon.append blank).append balancedValue
          rw [valueIs]
          split at read
          · next rest closed =>
            obtain ⟨rfl, rfl⟩ := Prod.mk.inj (Option.some.inj read)
            obtain ⟨ending, endingIs, balancedEnd⟩ := balanced_skipSpaces afterValue
            refine ⟨upToColon ++ spaces ++ written ++ ending, ?_, upToValue.append balancedEnd⟩
            rw [endingIs, closed]
            simp
          · next rest comma =>
            obtain ⟨⟨more, after⟩, others, same⟩ := Option.map_eq_some_iff.mp read
            obtain ⟨rfl, rfl⟩ := Prod.mk.inj same
            obtain ⟨upToComma, commaIs, balancedComma⟩ := balanced_behind comma upToValue rfl
            obtain ⟨next, nextIs, balancedNext⟩ := balanced_skipSpaces rest
            obtain ⟨last, lastIs, balancedLast⟩ := smaller.members others
            refine ⟨upToComma ++ next ++ last, ?_, (balancedComma.append balancedNext).append balancedLast⟩
            rw [List.append_assoc, List.append_assoc] at commaIs
            rw [commaIs, nextIs, lastIs]
            simp
          · cases read
      · cases read
  · cases read

theorem balanced_items (smaller : ReadsBalanced numberOf fuel) {items : List Json}
    (read : readItems numberOf (fuel + 1) text = some (items, behind)) :
    ∃ taken, text = taken ++ ']' :: behind ∧ Balanced taken := by
  unfold readItems at read
  split at read
  · cases read
  · next value afterValue found =>
    obtain ⟨written, valueIs, balancedValue⟩ := smaller.value found
    rw [valueIs]
    split at read
    · next rest closed =>
      obtain ⟨rfl, rfl⟩ := Prod.mk.inj (Option.some.inj read)
      obtain ⟨ending, endingIs, balancedEnd⟩ := balanced_skipSpaces afterValue
      refine ⟨written ++ ending, ?_, balancedValue.append balancedEnd⟩
      rw [endingIs, closed]
      simp
    · next rest comma =>
      obtain ⟨⟨more, after⟩, others, same⟩ := Option.map_eq_some_iff.mp read
      obtain ⟨rfl, rfl⟩ := Prod.mk.inj same
      obtain ⟨upToComma, commaIs, balancedComma⟩ := balanced_behind comma balancedValue rfl
      obtain ⟨next, nextIs, balancedNext⟩ := balanced_skipSpaces rest
      obtain ⟨last, lastIs, balancedLast⟩ := smaller.items others
      refine ⟨upToComma ++ next ++ last, ?_, (balancedComma.append balancedNext).append balancedLast⟩
      rw [commaIs, nextIs, lastIs]
      simp
    · cases read

/-- **What is read is balanced**, by induction on the fuel. -/
theorem readsBalanced (fuel : Nat) : ReadsBalanced numberOf fuel := by
  induction fuel with
  | zero =>
    constructor
    · intro text value behind read
      simp [readValue] at read
    · intro text members behind read
      simp [readMembers] at read
    · intro text items behind read
      simp [readItems] at read
  | succ fuel ih => exact ⟨balanced_value ih, balanced_members ih, balanced_items ih⟩

theorem readValue_brace (fuel : Nat) (rest : List Char) : readValue numberOf (fuel + 1) ('\x7b' :: rest) =
    match skipSpaces rest with
    | '\x7d' :: behind => some (.obj [], behind)
    | members => (readMembers numberOf fuel members).map fun read => (.obj (fieldsOfMembers read.1), read.2) := rfl

theorem balanced_object {rest behind : List Char} {value : Json}
    (read : readValue numberOf fuel ('\x7b' :: rest) = some (value, behind)) :
    ∃ inner, rest = inner ++ '\x7d' :: behind ∧ Balanced inner := by
  cases fuel with
  | zero => simp [readValue] at read
  | succ fuel =>
    rw [readValue_brace] at read
    obtain ⟨spaces, split, blank⟩ := balanced_skipSpaces rest
    split at read
    · next after first =>
      obtain ⟨-, rfl⟩ := Prod.mk.inj (Option.some.inj read)
      exact ⟨spaces, split.trans (congrArg _ first), blank⟩
    · next members notClosed =>
      obtain ⟨⟨fields, after⟩, found, same⟩ := Option.map_eq_some_iff.mp read
      obtain ⟨-, rfl⟩ := Prod.mk.inj same
      obtain ⟨taken, first, balanced⟩ := (readsBalanced fuel).members found
      refine ⟨spaces ++ taken, ?_, blank.append balanced⟩
      rw [split, first, List.append_assoc]

end Read

/-! ## Nested braces -/

/-- The place with more brackets open around it. -/
def Scan.deeper (more : Nat) : Scan → Scan
  | .outside depth => .outside (depth + more)
  | .inside depth => .inside (depth + more)
  | .escaped depth => .escaped (depth + more)

variable {c : Char}

theorem scanChar_deeper {start next : Scan} (step : scanChar start c = some next) (more : Nat) :
    scanChar (start.deeper more) c = some (next.deeper more) := by
  cases start with
  | outside depth =>
    simp only [scanChar, Scan.deeper] at step ⊢
    split_ifs at step with quote opening closing zero backslash
    · obtain rfl := Option.some.inj step
      rw [if_pos quote]
    · obtain rfl := Option.some.inj step
      rw [if_neg quote, if_pos opening, Nat.add_right_comm]
    · obtain rfl := Option.some.inj step
      rw [if_neg quote, if_neg opening, if_pos closing, if_neg (by omega), Nat.sub_add_comm (by omega)]
    · obtain rfl := Option.some.inj step
      rw [if_neg quote, if_neg opening, if_neg closing, if_neg backslash]
  | inside depth =>
    simp only [scanChar, Scan.deeper] at step ⊢
    split_ifs at step ⊢ <;> obtain rfl := Option.some.inj step <;> rfl
  | escaped depth =>
    simp only [scanChar, Scan.deeper] at step ⊢
    split_ifs at step ⊢
    obtain rfl := Option.some.inj step
    rfl

theorem scan_deeper {text : List Char} {start last : Scan} (scanned : scan start text = some last) (more : Nat) :
    scan (start.deeper more) text = some (last.deeper more) := by
  induction text generalizing start with
  | nil =>
    obtain rfl := Option.some.inj scanned
    rfl
  | cons c text ih =>
    rw [scan] at scanned ⊢
    obtain ⟨next, step, later⟩ := Option.bind_eq_some_iff.mp scanned
    rw [scanChar_deeper step, Option.bind_some]
    exact ih later

/-- One scan is inside of a string where the other is outside. -/
def Scan.Opposite : Scan → Scan → Prop
  | .outside _, .inside _ => True
  | .inside _, .outside _ => True
  | _, _ => False

theorem Scan.Opposite.symm {a b : Scan} (opposite : a.Opposite b) : b.Opposite a := by
  cases a <;> cases b <;> exact opposite

theorem scanChar_outside {depth : Nat} {next : Scan}
    (step : scanChar (.outside depth) c = some next) (quote : c ≠ '"') : ∃ depth', next = .outside depth' := by
  simp only [scanChar, if_neg quote] at step
  split_ifs at step
  all_goals exact ⟨_, (Option.some.inj step).symm⟩

theorem opposite_scanChar_inside {depth other : Nat} {a b : Scan}
    (first : scanChar (.inside depth) c = some a) (second : scanChar (.outside other) c = some b) : a.Opposite b := by
  by_cases quote : c = '"'
  · subst quote
    obtain rfl := Option.some.inj first
    obtain rfl := Option.some.inj second
    trivial
  · by_cases backslash : c = '\\'
    · subst backslash
      cases second
    · obtain ⟨depth', rfl⟩ := scanChar_outside second quote
      rw [scanChar, if_neg quote, if_neg backslash] at first
      obtain rfl := Option.some.inj first
      trivial

theorem Scan.Opposite.scanChar {a b a' b' : Scan} (opposite : a.Opposite b)
    (first : scanChar a c = some a') (second : Lib.scanChar b c = some b') : a'.Opposite b' := by
  cases a with
  | outside depth =>
    cases b with
    | inside other => exact (opposite_scanChar_inside second first).symm
    | outside | escaped => cases opposite
  | inside depth =>
    cases b with
    | outside other => exact opposite_scanChar_inside first second
    | inside | escaped => cases opposite
  | escaped depth => cases b <;> cases opposite

/-- Two scans of a text that begin on opposite sides of a quote end on opposite sides. -/
theorem Scan.Opposite.scan {text : List Char} {a b a' b' : Scan} (opposite : a.Opposite b)
    (first : scan a text = some a') (second : Lib.scan b text = some b') : a'.Opposite b' := by
  induction text generalizing a b with
  | nil =>
    obtain rfl := Option.some.inj first
    obtain rfl := Option.some.inj second
    exact opposite
  | cons c text ih =>
    rw [Lib.scan] at first second
    obtain ⟨a₁, stepA, laterA⟩ := Option.bind_eq_some_iff.mp first
    obtain ⟨b₁, stepB, laterB⟩ := Option.bind_eq_some_iff.mp second
    exact ih (opposite.scanChar stepA stepB) laterA laterB

structure IsObjectText (numberOf : List Char → JsNumber) (document : List Char) (fields : List (String × Json)) :
    Prop where
  opens : document.head? = some '\x7b'
  closes : document.getLast? = some '\x7d'
  parses : parseJson numberOf document = some (.obj fields)

/-- What is behind white space at the end of a text that does not end in it. -/
theorem eq_nil_of_spaces {front behind : List Char} (closes : (front ++ behind).getLast? = some c)
    (visible : isJsonSpace c = false) (blank : skipSpaces behind = []) : behind = [] := by
  by_contra given
  rw [List.getLast?_append_of_ne_nil _ given] at closes
  have all : ∀ d ∈ behind, isJsonSpace d = true := List.dropWhile_eq_nil_iff.mp blank
  rw [all c (List.mem_of_getLast? closes)] at visible
  cases visible

variable {numberOf : List Char → JsNumber}

/-- A text that opens with a brace, ends with one and is read has its inner text between the two. -/
theorem exists_inner {rest : List Char} {value : Json} (closes : ('\x7b' :: rest).getLast? = some '\x7d')
    (parses : parseJson numberOf ('\x7b' :: rest) = some value) :
    ∃ inner, rest = inner ++ ['\x7d'] ∧ Balanced inner := by
  unfold parseJson at parses
  have first : skipSpaces ('\x7b' :: rest) = '\x7b' :: rest := rfl
  rw [first] at parses
  split at parses
  · next read behind found =>
    split at parses
    · next blank =>
      obtain ⟨inner, rfl, balanced⟩ := balanced_object found
      have ending : ('\x7b' :: inner ++ '\x7d' :: behind).getLast? = some '\x7d' := closes
      have split : '\x7b' :: inner ++ '\x7d' :: behind = ('\x7b' :: inner ++ ['\x7d']) ++ behind := by simp
      rw [split] at ending
      rw [eq_nil_of_spaces ending rfl blank]
      exact ⟨inner, rfl, balanced⟩
    · cases parses
  · cases parses

/-- **No end of the text of an object that begins at a later opening brace is a JSON text.** -/
theorem parseJson_nested_eq_none {document front back : List Char} {fields : List (String × Json)}
    (object : IsObjectText numberOf document fields) (split : document = front ++ '\x7b' :: back)
    (later : front ≠ []) : parseJson numberOf ('\x7b' :: back) = none := by
  by_contra parsed
  obtain ⟨value, parses⟩ := Option.ne_none_iff_exists'.mp parsed
  obtain ⟨opening, front, rfl⟩ := List.exists_cons_of_ne_nil later
  obtain rfl : opening = '\x7b' := by
    have opens := object.opens
    rw [split] at opens
    exact Option.some.inj opens
  have closes := object.closes
  rw [split] at closes
  obtain ⟨nested, rfl, balancedNested⟩ := exists_inner
    (by rwa [List.getLast?_append_of_ne_nil _ (List.cons_ne_nil _ _)] at closes) parses
  -- What is between the braces of the object: the front, and what is nested up to its last brace.
  obtain ⟨inner, same, balanced⟩ := exists_inner closes (split ▸ object.parses)
  have innerIs : front ++ '\x7b' :: nested = inner := by
    have ends : (front ++ '\x7b' :: nested) ++ ['\x7d'] = inner ++ ['\x7d'] := by
      rw [← same]
      simp
    exact List.append_cancel_right ends
  have whole := balanced 0
  rw [← innerIs, scan_append] at whole
  obtain ⟨place, scanned, onwards⟩ := Option.bind_eq_some_iff.mp whole
  have own : scan (.outside 0) ('\x7b' :: nested) = some (.outside 1) := by
    change scan (.outside 1) nested = some (.outside 1)
    exact balancedNested 1
  cases place with
  | outside depth =>
    -- One bracket more stays open than in the inner text of the object.
    have deeper := scan_deeper own depth
    rw [Scan.deeper, Nat.zero_add, onwards] at deeper
    have depths := Scan.outside.inj (Option.some.inj deeper)
    omega
  | inside depth =>
    have opposite : (Scan.inside depth).Opposite (.outside 0) := trivial
    exact opposite.scan onwards own
  | escaped depth => cases onwards

end Lib
