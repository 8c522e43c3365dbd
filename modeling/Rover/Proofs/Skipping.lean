import Rover.Proofs.Grammar

set_option autoImplicit false

namespace Rover.Json

def Bracket.begin : Bracket → UInt8
  | list => openBracket
  | object => openBrace

inductive Label : Bracket → List UInt8 → Prop where
  | list (before : List UInt8) (blank : Blanks before) : Label .list before
  | object (before raw letters middle after : List UInt8) (first : Blanks before)
      (spelled : Spelled LooseEscape raw letters) (second : Blanks middle) (third : Blanks after) :
      Label .object (before ++ quote :: (raw ++ quote :: (middle ++ colon :: after)))

inductive Phrase : Option Bracket → List UInt8 → Prop where
  | number (literal : Literal) : Phrase none literal.text
  | word (letter : UInt8) (letters : List UInt8) (known : wordAfter? letter = some letters) :
      Phrase none (letter :: letters)
  | text (raw letters : List UInt8) (spelled : Spelled LooseEscape raw letters) :
      Phrase none (quote :: (raw ++ [quote]))
  | empty (bracket : Bracket) (inside : List UInt8) (blank : Blanks inside) :
      Phrase none (bracket.begin :: (inside ++ [bracket.close]))
  | filled (bracket : Bracket) (inside : List UInt8) (items : Phrase (some bracket) inside) :
      Phrase none (bracket.begin :: (inside ++ [bracket.close]))
  | last (bracket : Bracket) (label value after : List UInt8) (labelled : Label bracket label)
      (item : Phrase none value) (blank : Blanks after) :
      Phrase (some bracket) (label ++ (value ++ after))
  | more (bracket : Bracket) (label value after others : List UInt8)
      (labelled : Label bracket label) (item : Phrase none value) (blank : Blanks after)
      (items : Phrase (some bracket) others) :
      Phrase (some bracket) (label ++ (value ++ (after ++ comma :: others)))

-- Where the blanks before it end, a phrase shows that it does not close a bracket.
structure Front (bytes before : List UInt8) (first : UInt8) (tail : List UInt8) : Prop where
  split : bytes = before ++ first :: tail
  blank : Blanks before
  dark : isBlank first = false
  apart : ∀ bracket : Bracket, first ≠ bracket.close

theorem front_append (bytes before tail after : List UInt8) (first : UInt8)
    (front : Front bytes before first tail) :
    Front (bytes ++ after) before first (tail ++ after) :=
  ⟨by rw [front.split, List.append_assoc, List.cons_append], front.blank, front.dark, front.apart⟩

theorem front_blanks (blanks bytes before tail : List UInt8) (first : UInt8)
    (blank : Blanks blanks) (front : Front bytes before first tail) :
    Front (blanks ++ bytes) (blanks ++ before) first tail := by
  refine ⟨by rw [front.split, List.append_assoc], ?_, front.dark, front.apart⟩
  intro byte member
  rcases List.mem_append.mp member with early | late
  · exact blank byte early
  · exact front.blank byte late

theorem front_here (first : UInt8) (tail : List UInt8) (dark : isBlank first = false)
    (list : first ≠ closeBracket) (object : first ≠ closeBrace) :
    Front (first :: tail) [] first tail := by
  refine ⟨rfl, blanks_nil, dark, fun bracket => ?_⟩
  cases bracket with
  | list => exact list
  | object => exact object

theorem number_front (byte : UInt8) (number : (decide (byte = minus) || isDigit byte) = true) :
    isBlank byte = false ∧ byte ≠ closeBracket ∧ byte ≠ closeBrace := by
  simp only [isDigit, Bool.or_eq_true, Bool.and_eq_true, decide_eq_true_eq] at number
  simp only [isBlank, Bool.or_eq_false_iff, decide_eq_false_iff_not]
  refine ⟨⟨⟨⟨?_, ?_⟩, ?_⟩, ?_⟩, ?_, ?_⟩ <;> rintro rfl <;> revert number <;> decide

theorem literal_front (literal : Literal) : ∃ first tail, literal.text = first :: tail ∧
    (decide (first = minus) || isDigit first) = true := by
  rw [Literal.text, Literal.sign]
  cases literal.negative with
  | true => exact ⟨minus, _, rfl, rfl⟩
  | false =>
      cases digits : literal.whole.bytes with
      | nil => exact absurd digits literal.whole.some
      | cons byte bytes =>
          have digit : isDigit byte = true := by
            apply literal.whole.all
            rw [digits]
            exact List.mem_cons_self
          exact ⟨byte, _, rfl, by rw [digit, Bool.or_true]⟩

theorem word_letter (letter : UInt8) (letters : List UInt8)
    (known : wordAfter? letter = some letters) : letter = 0x6e ∨ letter = 0x74 ∨ letter = 0x66 := by
  simp only [wordAfter?] at known
  split at known
  · exact .inl rfl
  · exact .inr (.inl rfl)
  · exact .inr (.inr rfl)
  · cases known

theorem label_front (bracket : Bracket) (label bytes before tail : List UInt8) (first : UInt8)
    (labelled : Label bracket label) (front : Front bytes before first tail) :
    ∃ before first tail, Front (label ++ bytes) before first tail := by
  cases labelled with
  | list label blank => exact ⟨_, _, _, front_blanks label bytes before tail first blank front⟩
  | object label raw letters middle after blank =>
      have here : Front (quote :: (raw ++ quote :: (middle ++ colon :: after))) [] quote _ :=
        front_here _ _ rfl (by decide) (by decide)
      exact ⟨_, _, _, front_append _ _ _ bytes _ (front_blanks label _ _ _ _ blank here)⟩

theorem phrase_front (kind : Option Bracket) (bytes : List UInt8) (phrase : Phrase kind bytes) :
    ∃ before first tail, Front bytes before first tail := by
  induction phrase with
  | number literal =>
      obtain ⟨first, tail, text, number⟩ := literal_front literal
      obtain ⟨dark, list, object⟩ := number_front first number
      rw [text]
      exact ⟨[], first, tail, front_here _ _ dark list object⟩
  | word letter letters known =>
      rcases word_letter letter letters known with rfl | rfl | rfl <;>
        exact ⟨[], _, _, front_here _ _ rfl (by decide) (by decide)⟩
  | text raw letters spelled =>
      exact ⟨[], quote, _, front_here _ _ rfl (by decide) (by decide)⟩
  | empty bracket | filled bracket =>
      cases bracket with
      | list | object => exact ⟨[], _, _, front_here _ _ rfl (by decide) (by decide)⟩
  | last bracket label value after labelled _ _ ih =>
      obtain ⟨before, first, tail, front⟩ := ih
      exact label_front bracket label _ _ _ _ labelled (front_append _ _ _ after _ front)
  | more bracket label value after others labelled _ _ _ ih _ =>
      obtain ⟨before, first, tail, front⟩ := ih
      exact label_front bracket label _ _ _ _ labelled (front_append _ _ _ _ _ front)

theorem ends_byte (byte : UInt8) (rest : List UInt8) (digit : isDigit byte = false)
    (point : byte ≠ dot) (small : byte ≠ 0x65) (capital : byte ≠ 0x45) : Ends (byte :: rest) := by
  intro first head
  have same : byte = first := Option.some.inj head
  rw [← same]
  exact ⟨digit, point, small, capital⟩

theorem ends_comma (rest : List UInt8) : Ends (comma :: rest) :=
  ends_byte _ _ rfl (by decide) (by decide) (by decide)

theorem ends_close (bracket : Bracket) (rest : List UInt8) : Ends (bracket.close :: rest) := by
  cases bracket with
  | list | object => exact ends_byte _ _ rfl (by decide) (by decide) (by decide)

namespace Reader

variable (rounds : Nat)

theorem skip_scalar_blanks (blanks text : List UInt8) (blank : Blanks blanks) :
    skipScalar rounds (blanks ++ text) = skipScalar rounds text := by
  change Except.bind (peek rounds (blanks ++ text)) _ = Except.bind (peek rounds text) _
  rw [peek_blanks blanks text rounds blank]

theorem skip_number (literal : Literal) (rest : List UInt8) (ends : Ends rest) :
    skipScalar rounds (literal.text ++ rest) = .ok (none, rest) := by
  obtain ⟨first, tail, text, number⟩ := literal_front literal
  have read := discard_ok _ _ _ _ _ (numeral_read .malformed rounds literal rest ends)
  have dark := (number_front first number).1
  rw [text] at read ⊢
  rw [skipScalar, List.cons_append, bind_ok _ _ _ _ _ _ (peek_here _ first rounds dark),
    if_pos number]
  exact bind_ok _ _ _ _ _ _ read

theorem skip_word (letter : UInt8) (letters rest : List UInt8)
    (known : wordAfter? letter = some letters) :
    skipScalar rounds (letter :: (letters ++ rest)) = .ok (none, rest) := by
  have read := bind_ok _ (fun _ => (pure none : Reader (Option Bracket))) _ _ _ _
    (word_read letters rest rounds)
  rcases word_letter letter letters known with rfl | rfl | rfl
  all_goals
    rw [skipScalar, bind_ok _ _ _ _ _ _ (peek_here _ _ rounds rfl), if_neg (by decide),
      bind_ok _ _ _ _ _ _ (discard_next _ _ rounds), if_neg (by decide), if_neg (by decide),
      if_neg (by decide), known]
    exact read

theorem skip_quoted (raw letters rest : List UInt8) (spelled : Spelled LooseEscape raw letters)
    (enough : raw.length < rounds) :
    skipScalar rounds (quote :: (raw ++ quote :: rest)) = .ok (none, rest) := by
  rw [skipScalar, bind_ok _ _ _ _ _ _ (peek_here _ quote rounds rfl), if_neg (by decide),
    bind_ok _ _ _ _ _ _ (discard_next _ _ rounds), if_pos rfl]
  exact bind_ok _ _ _ _ _ _ (skip_text_read rounds raw letters rest spelled enough)

theorem skip_begin (bracket : Bracket) (rest : List UInt8) :
    skipScalar rounds (bracket.begin :: rest) = .ok (some bracket, rest) := by
  cases bracket with
  | list | object =>
      rw [skipScalar, bind_ok _ _ _ _ _ _ (peek_here _ _ rounds rfl),
        if_neg (by decide), bind_ok _ _ _ _ _ _ (discard_next _ _ rounds)]
      rfl

theorem skip_from_blanks (limit : Nat) (opened : List Bracket) (blanks text : List UInt8)
    (blank : Blanks blanks) :
    skipFrom limit true opened rounds (blanks ++ text) = skipFrom limit true opened rounds text := by
  cases limit with
  | zero => rfl
  | succ limit =>
      change Except.bind (skipScalar rounds (blanks ++ text)) _ =
        Except.bind (skipScalar rounds text) _
      rw [skip_scalar_blanks rounds blanks text blank]

theorem skip_scalar_done (limit : Nat) (opened : List Bracket) (text rest : List UInt8)
    (read : skipScalar rounds text = .ok (none, rest)) :
    skipFrom (limit + 1) true opened rounds text = skipFrom limit false opened rounds rest := by
  rw [skipFrom, bind_ok _ _ _ _ _ _ read]

def inside (limit : Nat) (bracket : Bracket) (outer : List Bracket) : Reader Unit := do
  enter bracket
  skipFrom limit true (bracket :: outer)

theorem inside_blanks (limit : Nat) (bracket : Bracket) (outer : List Bracket)
    (blanks text : List UInt8) (blank : Blanks blanks) :
    inside limit bracket outer rounds (blanks ++ text) = inside limit bracket outer rounds text := by
  cases bracket with
  | list => exact skip_from_blanks rounds limit _ blanks text blank
  | object =>
      change Except.bind (Except.bind (Except.bind (peek rounds (blanks ++ text)) _) _) _ =
        Except.bind (Except.bind (Except.bind (peek rounds text) _) _) _
      rw [peek_blanks blanks text rounds blank]

theorem inside_label (limit : Nat) (bracket : Bracket) (outer : List Bracket)
    (label text : List UInt8) (labelled : Label bracket label) (enough : label.length < rounds) :
    inside limit bracket outer rounds (label ++ text) =
      skipFrom limit true (bracket :: outer) rounds text := by
  cases labelled with
  | list label blank => exact skip_from_blanks rounds limit _ label text blank
  | object before raw letters middle after first spelled second third =>
      have short : raw.length < rounds := by
        simp only [List.length_append, List.length_cons] at enough
        omega
      have entered : enter .object rounds
          (before ++ quote :: (raw ++ quote :: (middle ++ colon :: (after ++ text)))) =
            .ok ((), after ++ text) := by
        rw [enter, bind_ok _ _ _ _ _ _ (expect_read before _ quote rounds first rfl),
          bind_ok _ _ _ _ _ _ (skip_text_read rounds raw letters _ spelled short)]
        exact expect_read middle _ colon rounds second rfl
      simp only [List.append_assoc, List.cons_append]
      rw [inside, bind_ok _ _ _ _ _ _ entered]
      exact skip_from_blanks rounds limit _ after text third

theorem skip_open (limit : Nat) (bracket : Bracket) (outer : List Bracket) (text : List UInt8)
    (before tail : List UInt8) (first : UInt8) (front : Front text before first tail) :
    skipFrom (limit + 1) true outer rounds (bracket.begin :: text) =
      inside limit bracket outer rounds text := by
  have same := inside_blanks rounds limit bracket outer before (first :: tail) front.blank
  rw [skipFrom, bind_ok _ _ _ _ _ _ (skip_begin rounds bracket text)]
  dsimp only
  rw [front.split, bind_ok _ _ _ _ _ _ (peek_read before tail first rounds front.blank front.dark),
    if_neg (front.apart bracket), same]
  rfl

theorem skip_empty (limit : Nat) (bracket : Bracket) (outer : List Bracket)
    (blanks rest : List UInt8) (blank : Blanks blanks) :
    skipFrom (limit + 1) true outer rounds
        (bracket.begin :: (blanks ++ bracket.close :: rest)) =
      skipFrom limit false outer rounds rest := by
  have dark : isBlank bracket.close = false := by cases bracket <;> decide
  rw [skipFrom, bind_ok _ _ _ _ _ _ (skip_begin rounds bracket _)]
  dsimp only
  rw [bind_ok _ _ _ _ _ _ (peek_read blanks rest _ rounds blank dark), if_pos rfl,
    bind_ok _ _ _ _ _ _ (discard_next _ _ rounds)]

theorem skip_close (limit : Nat) (bracket : Bracket) (outer : List Bracket)
    (blanks rest : List UInt8) (blank : Blanks blanks) :
    skipFrom (limit + 1) false (bracket :: outer) rounds (blanks ++ bracket.close :: rest) =
      skipFrom limit false outer rounds rest := by
  have dark : isBlank bracket.close = false := by cases bracket <;> decide
  have apart : bracket.close ≠ comma := by cases bracket <;> decide
  rw [skipFrom, bind_ok _ _ _ _ _ _ (peek_read blanks rest _ rounds blank dark),
    bind_ok _ _ _ _ _ _ (discard_next _ _ rounds), if_neg apart, if_pos rfl]

theorem skip_comma (limit : Nat) (bracket : Bracket) (outer : List Bracket)
    (blanks rest : List UInt8) (blank : Blanks blanks) :
    skipFrom (limit + 1) false (bracket :: outer) rounds (blanks ++ comma :: rest) =
      inside limit bracket outer rounds rest := by
  rw [skipFrom, bind_ok _ _ _ _ _ _ (peek_read blanks rest comma rounds blank rfl),
    bind_ok _ _ _ _ _ _ (discard_next _ _ rounds), if_pos rfl]
  rfl

-- What the loop makes of a phrase. It takes no more rounds than the phrase has bytes, with one more
-- for the bracket behind it.
def Skips : Option Bracket → List UInt8 → Prop
  | none, value => ∀ outer rest, Ends rest → ∃ used ≤ value.length, ∀ limit,
      skipFrom (limit + used) true outer rounds (value ++ rest) =
        skipFrom limit false outer rounds rest
  | some bracket, items => ∀ outer rest, ∃ used ≤ items.length + 1, ∀ limit,
      inside (limit + used) bracket outer rounds (items ++ bracket.close :: rest) =
        skipFrom limit false outer rounds rest

theorem skips_scalar (value : List UInt8) (some : 0 < value.length)
    (read : ∀ rest, Ends rest → skipScalar rounds (value ++ rest) = .ok (none, rest)) :
    Skips rounds none value := fun outer rest ends =>
  ⟨1, some, fun limit => skip_scalar_done rounds limit outer _ rest (read rest ends)⟩

theorem phrase_skips (kind : Option Bracket) (bytes : List UInt8) (phrase : Phrase kind bytes)
    (enough : bytes.length < rounds) : Skips rounds kind bytes := by
  induction phrase with
  | number literal =>
      obtain ⟨first, tail, text, _⟩ := literal_front literal
      refine skips_scalar rounds _ ?_ (skip_number rounds literal)
      rw [text]
      exact Nat.succ_pos _
  | word letter letters known =>
      exact skips_scalar rounds _ (Nat.succ_pos _) fun rest _ =>
        skip_word rounds letter letters rest known
  | text raw letters spelled =>
      refine skips_scalar rounds _ (Nat.succ_pos _) fun rest _ => ?_
      simp only [List.length_cons, List.length_append] at enough
      rw [List.cons_append, List.append_assoc]
      exact skip_quoted rounds raw letters rest spelled (by omega)
  | empty bracket blanks blank =>
      intro outer rest _
      refine ⟨1, Nat.succ_pos _, fun limit => ?_⟩
      rw [List.cons_append, List.append_assoc]
      exact skip_empty rounds limit bracket outer blanks rest blank
  | filled bracket items phrase ih =>
      intro outer rest _
      simp only [List.length_cons, List.length_append, List.length_nil] at enough
      obtain ⟨used, short, skips⟩ := ih (by omega) outer rest
      obtain ⟨before, first, tail, front⟩ := phrase_front _ _ phrase
      refine ⟨used + 1, ?_, fun limit => ?_⟩
      · simp only [List.length_cons, List.length_append, List.length_nil]
        omega
      · rw [List.cons_append, List.append_assoc, ← Nat.add_assoc,
          skip_open rounds _ bracket outer _ _ _ first (front_append _ _ _ _ first front)]
        exact skips limit
  | last bracket label value after labelled _ blank ih =>
      intro outer rest
      simp only [List.length_append] at enough
      obtain ⟨used, short, skips⟩ := ih (by omega) (bracket :: outer)
        (after ++ bracket.close :: rest) (ends_blank after _ blank (ends_close bracket rest))
      refine ⟨1 + used, ?_, fun limit => ?_⟩
      · simp only [List.length_append]
        omega
      · rw [List.append_assoc, List.append_assoc,
          inside_label rounds _ bracket outer label _ labelled (by omega),
          ← Nat.add_assoc, skips (limit + 1)]
        exact skip_close rounds limit bracket outer after rest blank
  | more bracket label value after others labelled _ blank _ ih ihOthers =>
      intro outer rest
      simp only [List.length_append, List.length_cons] at enough
      obtain ⟨used, short, skips⟩ := ih (by omega) (bracket :: outer)
        (after ++ comma :: (others ++ bracket.close :: rest))
        (ends_blank after _ blank (ends_comma _))
      obtain ⟨usedToo, shortToo, skipsToo⟩ := ihOthers (by omega) outer rest
      refine ⟨usedToo + 1 + used, ?_, fun limit => ?_⟩
      · simp only [List.length_append, List.length_cons]
        omega
      · simp only [List.append_assoc, List.cons_append]
        rw [inside_label rounds _ bracket outer label _ labelled (by omega), ← Nat.add_assoc,
          skips, ← Nat.add_assoc, skip_comma rounds _ bracket outer after _ blank]
        exact skipsToo limit

theorem skip_value_read (value rest : List UInt8) (phrase : Phrase none value)
    (enough : value.length < rounds) (ends : Ends rest) (blanks : List UInt8)
    (blank : Blanks blanks) : skipValue rounds (blanks ++ (value ++ rest)) = .ok ((), rest) := by
  obtain ⟨used, short, skips⟩ := phrase_skips rounds none value phrase enough [] rest ends
  have entered : skipValue rounds (blanks ++ (value ++ rest)) =
      skipFrom rounds true [] rounds (blanks ++ (value ++ rest)) := rfl
  have left : rounds = (rounds - used - 1) + 1 + used := by omega
  rw [entered, skip_from_blanks rounds rounds [] blanks _ blank]
  have skipped := skips (rounds - used - 1 + 1)
  rw [← left] at skipped
  exact skipped

end Reader

end Rover.Json
