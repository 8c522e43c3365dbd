import Rover.Json.Skip

set_option autoImplicit false

namespace Rover.Json

variable {β γ : Type}

def Blanks (bytes : List UInt8) : Prop := ∀ byte ∈ bytes, isBlank byte = true

instance (bytes : List UInt8) : Decidable (Blanks bytes) :=
  decidable_of_iff (bytes.all isBlank = true) List.all_eq_true

theorem blanks_nil : Blanks [] := fun _ member => absurd member List.not_mem_nil

namespace Reader

theorem bind_ok (first : Reader β) (tail : β → Reader γ) (rounds : Nat) (text rest : List UInt8)
    (value : β) (read : first rounds text = .ok (value, rest)) :
    (first >>= tail) rounds text = tail value rounds rest := by
  change Except.bind (first rounds text) (fun result => tail result.1 rounds result.2) = _
  rw [read]
  rfl

theorem bind_error (first : Reader β) (tail : β → Reader γ) (rounds : Nat) (text : List UInt8)
    (defect : Defect) (failed : first rounds text = .error defect) :
    (first >>= tail) rounds text = .error defect := by
  change Except.bind (first rounds text) (fun result => tail result.1 rounds result.2) = _
  rw [failed]
  rfl

theorem discard_ok (reader : Reader β) (rounds : Nat) (text rest : List UInt8) (value : β)
    (read : reader rounds text = .ok (value, rest)) :
    (discard reader : Reader PUnit) rounds text = .ok ((), rest) := by
  change Except.bind (reader rounds text) (fun result => _) = _
  rw [read]
  rfl

theorem accept_some (test : UInt8 → Bool) (byte : UInt8) (rounds : Nat) (rest : List UInt8)
    (passes : test byte = true) : accept test rounds (byte :: rest) = .ok (some byte, rest) := by
  rw [accept, if_pos passes]

theorem accept_none (test : UInt8 → Bool) (rounds : Nat) (rest : List UInt8)
    (fails : ∀ byte ∈ rest.head?, test byte = false) :
    accept test rounds rest = .ok (none, rest) := by
  cases rest with
  | nil => rfl
  | cons byte rest =>
      rw [accept, fails byte rfl]
      rfl

theorem take_while_read (test : UInt8 → Bool) (bytes rest : List UInt8) (rounds : Nat)
    (all : ∀ byte ∈ bytes, test byte = true) (fails : ∀ byte ∈ rest.head?, test byte = false) :
    takeWhile test rounds (bytes ++ rest) = .ok (bytes, rest) := by
  have taken : rest.takeWhile test = [] ∧ rest.dropWhile test = rest := by
    cases rest with
    | nil => exact ⟨rfl, rfl⟩
    | cons byte rest =>
        rw [List.takeWhile_cons, List.dropWhile_cons, fails byte rfl]
        exact ⟨rfl, rfl⟩
  rw [takeWhile, List.takeWhile_append_of_pos all, List.dropWhile_append_of_pos all, taken.1,
    taken.2, List.append_nil]

theorem drop_blanks (blanks text : List UInt8) (blank : Blanks blanks) :
    (blanks ++ text).dropWhile isBlank = text.dropWhile isBlank :=
  List.dropWhile_append_of_pos blank

theorem peek_blanks (blanks text : List UInt8) (rounds : Nat) (blank : Blanks blanks) :
    peek rounds (blanks ++ text) = peek rounds text := by
  rw [peek, peek, drop_blanks blanks text blank]

theorem peek_read (blanks rest : List UInt8) (byte : UInt8) (rounds : Nat) (blank : Blanks blanks)
    (dark : isBlank byte = false) :
    peek rounds (blanks ++ byte :: rest) = .ok (byte, byte :: rest) := by
  rw [peek_blanks blanks _ rounds blank, peek, List.dropWhile_cons, dark]
  rfl

theorem peek_here (rest : List UInt8) (byte : UInt8) (rounds : Nat) (dark : isBlank byte = false) :
    peek rounds (byte :: rest) = .ok (byte, byte :: rest) :=
  peek_read [] rest byte rounds blanks_nil dark

theorem discard_next (byte : UInt8) (rest : List UInt8) (rounds : Nat) :
    (discard next : Reader PUnit) rounds (byte :: rest) = .ok ((), rest) :=
  discard_ok next rounds _ rest byte rfl

theorem expect_read (blanks rest : List UInt8) (byte : UInt8) (rounds : Nat) (blank : Blanks blanks)
    (dark : isBlank byte = false) :
    expect byte rounds (blanks ++ byte :: rest) = .ok ((), rest) := by
  rw [expect, bind_ok _ _ _ _ _ _ (peek_read blanks rest byte rounds blank dark), if_pos rfl]
  exact discard_next byte rest rounds

theorem expect_here (rest : List UInt8) (byte : UInt8) (rounds : Nat)
    (dark : isBlank byte = false) : expect byte rounds (byte :: rest) = .ok ((), rest) :=
  expect_read [] rest byte rounds blanks_nil dark

theorem finish_read (blanks : List UInt8) (rounds : Nat) (blank : Blanks blanks) :
    finish rounds blanks = .ok ((), []) := by
  have gone := drop_blanks blanks [] blank
  rw [List.append_nil] at gone
  rw [finish, gone]
  rfl

theorem run_ok (reader : Reader β) (text after : List UInt8) (value : β) (blank : Blanks after)
    (read : reader (text.length + 1) text = .ok (value, after)) : run reader text = .ok value := by
  rw [run, bind_ok _ _ _ _ _ _ read, bind_ok _ _ _ _ _ _ (finish_read after _ blank)]
  rfl

theorem run_error (reader : Reader β) (text : List UInt8) (defect : Defect)
    (failed : reader (text.length + 1) text = .error defect) : run reader text = .error defect := by
  rw [run, bind_error _ _ _ _ _ failed]

theorem word_read (letters rest : List UInt8) (rounds : Nat) :
    word letters rounds (letters ++ rest) = .ok ((), rest) := by
  induction letters with
  | nil => rfl
  | cons letter letters ih =>
      rw [word, List.cons_append, bind_ok next _ _ _ _ letter rfl, if_pos rfl]
      exact ih

end Reader

section Numbers

structure Digits where
  bytes : List UInt8
  all : ∀ byte ∈ bytes, isDigit byte = true
  some : bytes ≠ []

structure Power where
  mark : UInt8
  marks : mark = 0x65 ∨ mark = 0x45
  sign : Option UInt8
  signs : ∀ byte ∈ sign, byte = plus ∨ byte = minus
  size : Digits

def Power.text (power : Power) : List UInt8 :=
  power.mark :: (power.sign.toList ++ power.size.bytes)

def Power.value (power : Power) : Int :=
  if power.sign = some minus then -ofDigits power.size.bytes else ofDigits power.size.bytes

structure Literal where
  negative : Bool
  whole : Digits
  leading : whole.bytes.head? = some 0x30 → whole.bytes = [0x30]
  decimals : Option Digits
  power : Option Power

namespace Literal

def sign (literal : Literal) : List UInt8 := if literal.negative then [minus] else []

def fraction (literal : Literal) : List UInt8 :=
  match literal.decimals with
  | none => []
  | some decimals => dot :: decimals.bytes

def text (literal : Literal) : List UInt8 :=
  literal.sign ++ (literal.whole.bytes ++ (literal.fraction ++ literal.power.elim [] Power.text))

def numeral (literal : Literal) : Numeral :=
  Reader.ofParts literal.negative literal.whole.bytes (literal.decimals.map Digits.bytes)
    (literal.power.map Power.value)

end Literal

def Ends (rest : List UInt8) : Prop :=
  ∀ byte ∈ rest.head?, isDigit byte = false ∧ byte ≠ dot ∧ byte ≠ 0x65 ∧ byte ≠ 0x45

theorem ends_blank (blanks rest : List UInt8) (blank : Blanks blanks) (ends : Ends rest) :
    Ends (blanks ++ rest) := by
  cases blanks with
  | nil => exact ends
  | cons byte blanks =>
      intro first head
      have same : byte = first := Option.some.inj head
      have blank := blank byte List.mem_cons_self
      rw [← same]
      simp only [isBlank, Bool.or_eq_true, decide_eq_true_eq] at blank
      rcases blank with ((rfl | rfl) | rfl) | rfl <;> decide

namespace Reader

variable (atEnd : Defect) (rounds : Nat)

theorem some_digits_read (digits : Digits) (rest : List UInt8)
    (ends : ∀ byte ∈ rest.head?, isDigit byte = false) :
    someDigits atEnd rounds (digits.bytes ++ rest) = .ok (digits.bytes, rest) := by
  have read := take_while_read isDigit digits.bytes rest rounds digits.all ends
  rw [someDigits, bind_ok _ _ _ _ _ _ read]
  cases bytes : digits.bytes with
  | nil => exact absurd bytes digits.some
  | cons byte bytes => rfl

theorem accept_digits (test : UInt8 → Bool) (digits : Digits) (rest : List UInt8)
    (fails : ∀ byte, isDigit byte = true → test byte = false) :
    accept test rounds (digits.bytes ++ rest) = .ok (none, digits.bytes ++ rest) := by
  apply accept_none
  cases bytes : digits.bytes with
  | nil => exact absurd bytes digits.some
  | cons byte bytes =>
      intro first head
      have same : byte = first := Option.some.inj head
      rw [← same]
      apply fails byte
      apply digits.all
      rw [bytes]
      exact List.mem_cons_self

theorem digit_no_sign (byte : UInt8) (digit : isDigit byte = true) :
    byte ≠ plus ∧ byte ≠ minus := by
  refine ⟨?_, ?_⟩
  · rintro rfl
    cases digit
  · rintro rfl
    cases digit

theorem whole_digits_read (digits : Digits)
    (leading : digits.bytes.head? = some 0x30 → digits.bytes = [0x30]) (rest : List UInt8)
    (ends : ∀ byte ∈ rest.head?, isDigit byte = false) :
    wholeDigits atEnd rounds (digits.bytes ++ rest) = .ok (digits.bytes, rest) := by
  rw [wholeDigits, bind_ok _ _ _ _ _ _ (some_digits_read atEnd rounds digits rest ends)]
  by_cases zero : digits.bytes.head? = some 0x30
  · rw [leading zero]
    rfl
  · rw [if_neg fun both => zero both.1]
    rfl

theorem fraction_read (literal : Literal) (rest : List UInt8)
    (ends : ∀ byte ∈ rest.head?, isDigit byte = false ∧ byte ≠ dot) :
    fraction atEnd rounds (literal.fraction ++ rest) =
      .ok (literal.decimals.map Digits.bytes, rest) := by
  rw [Literal.fraction]
  cases literal.decimals with
  | none =>
      have absent : accept (· = dot) rounds rest = .ok (none, rest) :=
        accept_none _ _ _ fun byte head => decide_eq_false (ends byte head).2
      rw [fraction, List.nil_append, bind_ok _ _ _ _ _ _ absent]
      rfl
  | some decimals =>
      have read := some_digits_read atEnd rounds decimals rest fun byte head => (ends byte head).1
      rw [fraction, List.cons_append, bind_ok _ _ _ _ _ _ (accept_some _ dot rounds _ rfl)]
      exact bind_ok _ _ _ _ _ _ read

theorem power_read (written : Option Power) (rest : List UInt8) (ends : Ends rest) :
    power atEnd rounds (written.elim [] Power.text ++ rest) =
      .ok (written.map Power.value, rest) := by
  cases written with
  | none =>
      have absent : accept (fun byte => byte = 0x65 || byte = 0x45) rounds rest =
          .ok (none, rest) := by
        apply accept_none
        intro byte head
        simp [(ends byte head).2.2.1, (ends byte head).2.2.2]
      rw [power, Option.elim_none, List.nil_append, bind_ok _ _ _ _ _ _ absent]
      rfl
  | some written =>
      have marked : (written.mark = 0x65 || written.mark = 0x45) = true := by
        rcases written.marks with marks | marks <;> rw [marks] <;> rfl
      have read := some_digits_read atEnd rounds written.size rest fun byte head =>
        (ends byte head).1
      have signed : accept (fun byte => byte = plus || byte = minus) rounds
          (written.sign.toList ++ (written.size.bytes ++ rest)) =
            .ok (written.sign, written.size.bytes ++ rest) := by
        cases sign : written.sign with
        | none =>
            apply accept_digits
            intro byte digit
            simp [digit_no_sign byte digit]
        | some byte =>
            apply accept_some
            rcases written.signs byte sign with rfl | rfl <;> rfl
      rw [power, Option.elim_some, Power.text, List.cons_append, List.append_assoc,
        bind_ok _ _ _ _ _ _ (accept_some _ written.mark rounds _ marked)]
      dsimp only
      rw [bind_ok _ _ _ _ _ _ signed]
      exact bind_ok _ _ _ _ _ _ read

theorem power_ends (written : Option Power) (rest : List UInt8) (ends : Ends rest) :
    ∀ byte ∈ (written.elim [] Power.text ++ rest).head?, isDigit byte = false ∧ byte ≠ dot := by
  cases written with
  | none => exact fun byte head => ⟨(ends byte head).1, (ends byte head).2.1⟩
  | some written =>
      intro byte head
      have same : written.mark = byte := Option.some.inj head
      rw [← same]
      rcases written.marks with marks | marks <;> rw [marks] <;> decide

theorem fraction_ends (literal : Literal) (rest : List UInt8)
    (ends : ∀ byte ∈ rest.head?, isDigit byte = false) :
    ∀ byte ∈ (literal.fraction ++ rest).head?, isDigit byte = false := by
  rw [Literal.fraction]
  cases literal.decimals with
  | none => exact ends
  | some decimals =>
      intro byte head
      have same : dot = byte := Option.some.inj head
      rw [← same]
      rfl

theorem sign_read (literal : Literal) (rest : List UInt8) :
    accept (· = minus) rounds (literal.sign ++ (literal.whole.bytes ++ rest)) =
      .ok (if literal.negative then some minus else none, literal.whole.bytes ++ rest) := by
  rw [Literal.sign]
  cases literal.negative with
  | true => exact accept_some _ minus rounds _ rfl
  | false =>
      apply accept_digits
      exact fun byte digit => decide_eq_false (digit_no_sign byte digit).2

theorem numeral_read (literal : Literal) (rest : List UInt8) (ends : Ends rest) :
    numeral atEnd rounds (literal.text ++ rest) = .ok (literal.numeral, rest) := by
  have powerEnds := power_ends literal.power rest ends
  have wholeEnds := fraction_ends literal _ fun byte head => (powerEnds byte head).1
  have signed := sign_read rounds literal
    (literal.fraction ++ (literal.power.elim [] Power.text ++ rest))
  have text : literal.text ++ rest = literal.sign ++ (literal.whole.bytes ++
      (literal.fraction ++ (literal.power.elim [] Power.text ++ rest))) := by
    simp only [Literal.text, List.append_assoc]
  rw [numeral, text, bind_ok _ _ _ _ _ _ signed,
    bind_ok _ _ _ _ _ _ (whole_digits_read atEnd rounds literal.whole literal.leading _ wholeEnds),
    bind_ok _ _ _ _ _ _ (fraction_read atEnd rounds literal _ powerEnds),
    bind_ok _ _ _ _ _ _ (power_read atEnd rounds literal.power rest ends), Literal.numeral]
  cases literal.negative <;> rfl

end Reader

end Numbers

section Strings

inductive Unit16 : List UInt8 → Nat → Prop where
  | digits (a b c d : UInt8) (w x y z : Nat) (first : hexValue? a = some w)
      (second : hexValue? b = some x) (third : hexValue? c = some y)
      (fourth : hexValue? d = some z) :
      Unit16 [a, b, c, d] (((16 * w + x) * 16 + y) * 16 + z)

inductive Escape : List UInt8 → List UInt8 → Prop where
  | short (letter byte : UInt8) (known : escaped? letter = some byte) : Escape [letter] [byte]
  | unit (digits : List UInt8) (unit : Nat) (written : Unit16 digits unit)
      (high : isLeading unit = false) (low : isTrailing unit = false) :
      Escape (0x75 :: digits) (String.utf8EncodeChar (Char.ofNat unit))
  | pair (first second : List UInt8) (high low : Nat) (leads : Unit16 first high)
      (trails : Unit16 second low) (leading : isLeading high = true)
      (trailing : isTrailing low = true) :
      Escape (0x75 :: (first ++ backslash :: 0x75 :: second))
        (String.utf8EncodeChar
          (Char.ofNat ((high - 0xd800) * 0x400 + (low - 0xdc00) + 0x10000)))

inductive LooseEscape : List UInt8 → List UInt8 → Prop where
  | short (letter : UInt8) (known : (escaped? letter).isSome = true) : LooseEscape [letter] []
  | unit (digits : List UInt8) (unit : Nat) (written : Unit16 digits unit) :
      LooseEscape (0x75 :: digits) []

inductive Spelled (escape : List UInt8 → List UInt8 → Prop) : List UInt8 → List UInt8 → Prop where
  | nil : Spelled escape [] []
  | plain (byte : UInt8) (raw bytes : List UInt8) (visible : ¬ byte < 0x20) (open_ : byte ≠ quote)
      (bare : byte ≠ backslash) (rest : Spelled escape raw bytes) :
      Spelled escape (byte :: raw) (byte :: bytes)
  | escaped (code letters raw bytes : List UInt8) (written : escape code letters)
      (rest : Spelled escape raw bytes) :
      Spelled escape (backslash :: (code ++ raw)) (letters ++ bytes)

theorem spelled_plain (escape : List UInt8 → List UInt8 → Prop) (bytes : List UInt8)
    (all : ∀ byte ∈ bytes, ¬ byte < 0x20 ∧ byte ≠ quote ∧ byte ≠ backslash) :
    Spelled escape bytes bytes := by
  induction bytes with
  | nil => exact .nil
  | cons byte bytes ih =>
      obtain ⟨visible, open_, bare⟩ := all byte List.mem_cons_self
      exact .plain byte bytes bytes visible open_ bare
        (ih fun other member => all other (List.mem_cons_of_mem byte member))

def utf8 (text : String) : List UInt8 := text.toUTF8.data.toList

namespace Reader

variable (rounds : Nat)

theorem hex_unit_read (digits rest : List UInt8) (unit : Nat) (written : Unit16 digits unit) :
    hexUnit rounds (digits ++ rest) = .ok (unit, rest) := by
  cases written with
  | digits a b c d w x y z first second third fourth =>
      rw [hexUnit, List.cons_append, List.cons_append, List.cons_append, List.cons_append,
        List.nil_append, bind_ok next _ _ _ _ a rfl, bind_ok next _ _ _ _ b rfl,
        bind_ok next _ _ _ _ c rfl, bind_ok next _ _ _ _ d rfl, first, second, third, fourth]
      rfl

theorem literally_read (byte : UInt8) (rest : List UInt8) :
    literally byte rounds (byte :: rest) = .ok ((), rest) := by
  rw [literally, bind_ok next _ _ _ _ byte rfl, if_pos rfl]
  rfl

theorem short_letter (letter byte : UInt8) (known : escaped? letter = some byte) :
    letter ≠ 0x75 := by
  rintro rfl
  cases known

theorem escape_read (code letters rest : List UInt8) (written : Escape code letters) :
    escape rounds (code ++ rest) = .ok (letters, rest) := by
  cases written with
  | short letter byte known =>
      rw [escape, List.cons_append, List.nil_append, bind_ok next _ _ _ _ letter rfl,
        if_neg (short_letter letter byte known), known]
      rfl
  | unit digits unit written high low =>
      have point : codePoint rounds (digits ++ rest) = .ok (unit, rest) := by
        rw [codePoint, bind_ok _ _ _ _ _ _ (hex_unit_read rounds digits rest unit written), low,
          high]
        rfl
      rw [escape, List.cons_append, bind_ok next _ _ _ _ 0x75 rfl, if_pos rfl,
        bind_ok _ _ _ _ _ _ point]
      rfl
  | pair first second high low leads trails leading trailing =>
      have apart : isTrailing high = false := by
        simp only [isLeading, isTrailing, Bool.and_eq_true, decide_eq_true_eq,
          Bool.and_eq_false_iff, decide_eq_false_iff_not] at leading ⊢
        omega
      have point : codePoint rounds (first ++ backslash :: 0x75 :: (second ++ rest)) =
          .ok ((high - 0xd800) * 0x400 + (low - 0xdc00) + 0x10000, rest) := by
        rw [codePoint, bind_ok _ _ _ _ _ _ (hex_unit_read rounds first _ high leads), apart,
          leading]
        simp only [Bool.false_eq_true, if_false, if_true]
        rw [bind_ok _ _ _ _ _ _ (literally_read rounds backslash _),
          bind_ok _ _ _ _ _ _ (literally_read rounds 0x75 _),
          bind_ok _ _ _ _ _ _ (hex_unit_read rounds second rest low trails), trailing]
        rfl
      rw [escape, List.cons_append, List.append_assoc, List.cons_append, List.cons_append,
        bind_ok next _ _ _ _ 0x75 rfl, if_pos rfl, bind_ok _ _ _ _ _ _ point]
      rfl

theorem loose_escape_read (code letters rest : List UInt8) (written : LooseEscape code letters) :
    looseEscape rounds (code ++ rest) = .ok (letters, rest) := by
  cases written with
  | short letter known =>
      obtain ⟨byte, found⟩ := Option.isSome_iff_exists.mp known
      rw [looseEscape, List.cons_append, List.nil_append, bind_ok next _ _ _ _ letter rfl,
        if_neg (short_letter letter byte found), if_pos known]
      rfl
  | unit digits unit written =>
      rw [looseEscape, List.cons_append, bind_ok next _ _ _ _ 0x75 rfl, if_pos rfl,
        bind_ok _ _ _ _ _ _
          (discard_ok _ _ _ _ unit (hex_unit_read rounds digits rest unit written))]
      rfl

section Quoted

variable (reader : Reader (List UInt8)) (escape : List UInt8 → List UInt8 → Prop)
  (reads : ∀ code letters rest, escape code letters →
    reader rounds (code ++ rest) = .ok (letters, rest))

include reads

-- Each byte or escape takes one round, and the closing quote the last one.
theorem quoted_from_read (raw bytes : List UInt8) (spelled : Spelled escape raw bytes) (limit : Nat)
    (enough : raw.length < limit) (taken rest : List UInt8) :
    quotedFrom reader limit taken rounds (raw ++ quote :: rest) =
      .ok (taken.reverse ++ bytes, rest) := by
  induction spelled generalizing limit taken with
  | nil =>
      obtain ⟨limit, rfl⟩ := Nat.exists_eq_succ_of_ne_zero (Nat.ne_of_gt enough)
      rw [quotedFrom, List.nil_append, bind_ok next _ _ _ _ quote rfl, if_pos rfl, List.append_nil]
      rfl
  | plain byte raw bytes visible open_ bare _ ih =>
      obtain ⟨limit, rfl⟩ := Nat.exists_eq_succ_of_ne_zero (Nat.ne_zero_of_lt enough)
      rw [quotedFrom, List.cons_append, bind_ok next _ _ _ _ byte rfl, if_neg open_, if_neg bare,
        if_neg visible, ih limit (Nat.lt_of_succ_lt_succ enough), List.reverse_cons,
        List.append_assoc]
      rfl
  | escaped code letters raw bytes written _ ih =>
      obtain ⟨limit, rfl⟩ := Nat.exists_eq_succ_of_ne_zero (Nat.ne_zero_of_lt enough)
      rw [List.length_cons, List.length_append] at enough
      rw [quotedFrom, List.cons_append, List.append_assoc, bind_ok next _ _ _ _ backslash rfl,
        if_neg (by decide), if_pos rfl,
        bind_ok _ _ _ _ _ _ (reads code letters (raw ++ quote :: rest) written),
        ih limit (by omega), List.reverse_append, List.reverse_reverse, List.append_assoc]

theorem quoted_read (raw bytes rest : List UInt8) (spelled : Spelled escape raw bytes)
    (enough : raw.length < rounds) :
    quoted reader rounds (raw ++ quote :: rest) = .ok (bytes, rest) :=
  quoted_from_read rounds reader escape reads raw bytes spelled rounds enough [] rest

end Quoted

theorem text_read (raw rest : List UInt8) (name : String)
    (spelled : Spelled Escape raw (utf8 name)) (enough : raw.length < rounds) :
    text rounds (raw ++ quote :: rest) = .ok (name, rest) := by
  have valid : String.fromUTF8? ⟨(utf8 name).toArray⟩ = some name := by
    simp only [utf8, Array.toArray_toList, String.fromUTF8?, String.toUTF8_eq_toByteArray,
      dif_pos name.isValidUTF8]
    rfl
  rw [text, bind_ok _ _ _ _ _ _ (quoted_read rounds _ _ (escape_read rounds) raw _ rest spelled
    enough), valid]
  rfl

theorem skip_text_read (raw bytes rest : List UInt8) (spelled : Spelled LooseEscape raw bytes)
    (enough : raw.length < rounds) : skipText rounds (raw ++ quote :: rest) = .ok ((), rest) :=
  discard_ok _ _ _ _ bytes
    (quoted_read rounds _ _ (loose_escape_read rounds) raw bytes rest spelled enough)

end Reader

end Strings

end Rover.Json
