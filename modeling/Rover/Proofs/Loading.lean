import Mathlib.Data.List.Perm.Basic
import Rover.Proofs.Fields
import Rover.Proofs.Skipping

set_option autoImplicit false

namespace Rover.Settings

open Json Json.Reader

section Documents

inductive Member : List UInt8 → List (Key × Literal) → Prop where
  | known (key : Key) (raw middle after : List UInt8) (literal : Literal)
      (spelled : Spelled Escape raw (utf8 key.name)) (first : Blanks middle)
      (second : Blanks after) :
      Member (quote :: (raw ++ quote :: (middle ++ colon :: (after ++ literal.text))))
        [(key, literal)]
  | unknown (name : String) (raw middle after value : List UInt8)
      (fresh : Key.ofName? name = none) (spelled : Spelled Escape raw (utf8 name))
      (first : Blanks middle) (second : Blanks after) (item : Phrase none value) :
      Member (quote :: (raw ++ quote :: (middle ++ colon :: (after ++ value)))) []

inductive Members : List UInt8 → List (Key × Literal) → Prop where
  | last (before member after : List UInt8) (entries : List (Key × Literal))
      (first : Blanks before) (item : Member member entries) (second : Blanks after) :
      Members (before ++ (member ++ after)) entries
  | more (before member after others : List UInt8) (entries later : List (Key × Literal))
      (first : Blanks before) (item : Member member entries) (second : Blanks after)
      (items : Members others later) :
      Members (before ++ (member ++ (after ++ comma :: others))) (entries ++ later)

inductive Document : List UInt8 → List (Key × Literal) → Prop where
  | empty (before inside after : List UInt8) (first : Blanks before) (second : Blanks inside)
      (third : Blanks after) :
      Document (before ++ openBrace :: (inside ++ closeBrace :: after)) []
  | filled (before inside after : List UInt8) (entries : List (Key × Literal))
      (first : Blanks before) (items : Members inside entries) (second : Blanks after) :
      Document (before ++ openBrace :: (inside ++ closeBrace :: after)) entries

theorem member_front (member : List UInt8) (entries : List (Key × Literal))
    (item : Member member entries) : ∃ tail, member = quote :: tail := by
  cases item with
  | known | unknown => exact ⟨_, rfl⟩

theorem members_front (inside : List UInt8) (entries : List (Key × Literal))
    (items : Members inside entries) :
    ∃ before tail, Blanks before ∧ inside = before ++ quote :: tail := by
  cases items with
  | last before member after _ first item | more before member after others _ _ first item =>
      obtain ⟨tail, rfl⟩ := member_front member _ item
      exact ⟨before, _, first, rfl⟩

end Documents

section Separators

variable (close : UInt8) (rounds : Nat)

theorem another_first (blanks tail : List UInt8) (byte : UInt8) (blank : Blanks blanks)
    (dark : isBlank byte = false) (apart : byte ≠ close) :
    another close true rounds (blanks ++ byte :: tail) = .ok (true, byte :: tail) := by
  rw [another, bind_ok _ _ _ _ _ _ (peek_read blanks tail byte rounds blank dark), if_neg apart]
  rfl

theorem another_comma (blanks between tail : List UInt8) (byte : UInt8) (blank : Blanks blanks)
    (second : Blanks between) (dark : isBlank byte = false) (apart : byte ≠ close)
    (open_ : comma ≠ close) :
    another close false rounds (blanks ++ comma :: (between ++ byte :: tail)) =
      .ok (true, byte :: tail) := by
  rw [another, bind_ok _ _ _ _ _ _ (peek_read blanks _ comma rounds blank rfl),
    if_neg open_]
  simp only [Bool.false_eq_true, if_false, if_true]
  rw [bind_ok _ _ _ _ _ _ (discard_next comma _ rounds),
    bind_ok _ _ _ _ _ _ (peek_read between tail byte rounds second dark), if_neg apart]
  rfl

theorem another_close (first : Bool) (blanks rest : List UInt8) (blank : Blanks blanks)
    (dark : isBlank close = false) :
    another close first rounds (blanks ++ close :: rest) = .ok (false, rest) := by
  rw [another, bind_ok _ _ _ _ _ _ (peek_read blanks rest close rounds blank dark), if_pos rfl]
  exact bind_ok _ _ _ _ _ _ (discard_next close rest rounds)

end Separators

section Reading

variable (rounds : Nat)

theorem value_apply (settings : Settings) (key : Key) (literal : Literal) (blanks rest : List UInt8)
    (blank : Blanks blanks) (ends : Ends rest) :
    value settings key rounds (blanks ++ (literal.text ++ rest)) =
      if literal.numeral.size?.isNone then .error .malformed
      else match settings.assign key literal.numeral with
        | some next => .ok (next, rest)
        | none => .error .mismatched := by
  obtain ⟨first, tail, text, number⟩ := literal_front literal
  have read : finiteNumeral rounds (literal.text ++ rest) =
      if literal.numeral.size?.isNone then .error .malformed else .ok (literal.numeral, rest) := by
    rw [finiteNumeral, bind_ok _ _ _ _ _ _ (numeral_read .truncated rounds literal rest ends)]
    cases literal.numeral.size? <;> rfl
  have dark := (number_front first number).1
  rw [text] at read ⊢
  rw [List.cons_append] at read
  rw [value, List.cons_append, bind_ok _ _ _ _ _ _ (peek_read blanks _ first rounds blank dark),
    startsNumeral, if_pos number]
  by_cases none : literal.numeral.size?.isNone
  · rw [if_pos none] at read ⊢
    exact bind_error _ _ _ _ _ read
  · rw [if_neg none] at read ⊢
    rw [bind_ok _ _ _ _ _ _ read]
    cases settings.assign key literal.numeral <;> rfl

theorem value_read (settings next : Settings) (key : Key) (literal : Literal) (field : Field)
    (blanks rest : List UInt8) (blank : Blanks blanks) (ends : Ends rest)
    (takes : key.Takes literal field) (assigned : settings.assign key literal.numeral = some next) :
    value settings key rounds (blanks ++ (literal.text ++ rest)) = .ok (next, rest) := by
  have sized := take_sized key literal.numeral field ((takes_iff key literal field).mp takes)
  rw [value_apply rounds settings key literal blanks rest blank ends, if_neg (by rw [sized]; decide),
    assigned]

theorem value_refused (settings : Settings) (key : Key) (literal : Literal)
    (blanks rest : List UInt8) (blank : Blanks blanks) (ends : Ends rest)
    (refused : ∀ field, ¬key.Takes literal field) :
    ∃ defect, value settings key rounds (blanks ++ (literal.text ++ rest)) = .error defect := by
  have none : settings.assign key literal.numeral = none := by
    apply assign_refused
    refine Option.eq_none_iff_forall_ne_some.mpr fun field taken => ?_
    exact refused field ((takes_iff key literal field).mpr taken)
  rw [value_apply rounds settings key literal blanks rest blank ends, none]
  split
  · exact ⟨_, rfl⟩
  · exact ⟨_, rfl⟩

theorem of_name_name (key : Key) : Key.ofName? key.name = some key := by
  cases key <;> decide +kernel

theorem member_read (limit : Nat) (flag : Bool) (seen : List Key) (settings settled : Settings)
    (text member rest : List UInt8) (entries : List (Key × Literal)) (item : Member member entries)
    (start : another closeBrace flag rounds text = .ok (true, member ++ rest)) (ends : Ends rest)
    (enough : member.length < rounds) (sound : Sound entries)
    (fresh : ∀ key ∈ entries.map Prod.fst, key ∉ seen)
    (assigned : settings.assignAll entries = some settled) :
    members (limit + 1) flag seen settings rounds text =
      members limit false (entries.map Prod.fst ++ seen) settled rounds rest := by
  rw [members, bind_ok _ _ _ _ _ _ start, if_pos rfl]
  cases item with
  | known key raw middle after literal spelled first second =>
      simp only [List.length_cons, List.length_append] at enough
      obtain ⟨field, takes⟩ := sound.typed _ List.mem_cons_self
      have new : key ∉ seen := fresh key List.mem_cons_self
      have next : settings.assign key literal.numeral = some settled := by
        rw [assignAll, List.foldlM_cons] at assigned
        cases came : settings.assign key literal.numeral with
        | none =>
            rw [came] at assigned
            cases assigned
        | some next =>
            rw [came] at assigned
            exact assigned
      have read := value_read rounds settings settled key literal field after rest second ends
        takes next
      simp only [List.cons_append, List.append_assoc]
      rw [bind_ok _ _ _ _ _ _ (expect_here _ quote rounds rfl),
        bind_ok _ _ _ _ _ _ (text_read rounds raw _ key.name spelled (by omega)), of_name_name]
      dsimp only
      rw [if_neg new, bind_ok _ _ _ _ _ _ (expect_read middle _ colon rounds first rfl),
        bind_ok _ _ _ _ _ _ read]
      rfl
  | unknown name raw middle after value unknown spelled first second item =>
      simp only [List.length_cons, List.length_append] at enough
      cases assigned
      have read := skip_value_read rounds value rest item (by omega) ends after second
      simp only [List.cons_append, List.append_assoc]
      rw [bind_ok _ _ _ _ _ _ (expect_here _ quote rounds rfl),
        bind_ok _ _ _ _ _ _ (text_read rounds raw _ name spelled (by omega)), unknown]
      dsimp only
      rw [bind_ok _ _ _ _ _ _ (expect_read middle _ colon rounds first rfl),
        bind_ok _ _ _ _ _ _ read]
      rfl

-- A member that is named for the second time, or has no value for its key, ends the reading.
theorem member_refused (limit : Nat) (flag : Bool) (seen : List Key) (settings : Settings)
    (text member rest : List UInt8) (entries : List (Key × Literal)) (item : Member member entries)
    (start : another closeBrace flag rounds text = .ok (true, member ++ rest)) (ends : Ends rest)
    (enough : member.length < rounds)
    (bad : ¬(Sound entries ∧ ∀ key ∈ entries.map Prod.fst, key ∉ seen)) :
    ∃ defect, members (limit + 1) flag seen settings rounds text = .error defect := by
  rw [members, bind_ok _ _ _ _ _ _ start, if_pos rfl]
  cases item with
  | known key raw middle after literal spelled first second =>
      simp only [List.length_cons, List.length_append] at enough
      simp only [List.cons_append, List.append_assoc]
      rw [bind_ok _ _ _ _ _ _ (expect_here _ quote rounds rfl),
        bind_ok _ _ _ _ _ _ (text_read rounds raw _ key.name spelled (by omega)), of_name_name]
      dsimp only
      by_cases again : key ∈ seen
      · rw [if_pos again]
        exact ⟨.mismatched, rfl⟩
      · have refused : ∀ field, ¬key.Takes literal field := by
          intro field takes
          refine bad ⟨⟨List.nodup_singleton key, fun entry member => ?_⟩, fun other member => ?_⟩
          · rw [List.mem_singleton.mp member]
            exact ⟨field, takes⟩
          · rw [List.mem_singleton.mp member]
            exact again
        obtain ⟨defect, failed⟩ := value_refused rounds settings key literal after rest second ends
          refused
        rw [if_neg again, bind_ok _ _ _ _ _ _ (expect_read middle _ colon rounds first rfl)]
        exact ⟨defect, bind_error _ _ _ _ _ failed⟩
  | unknown name raw middle after value unknown spelled first second item =>
      exact absurd ⟨⟨List.nodup_nil, fun _ member => absurd member List.not_mem_nil⟩,
        fun _ member => absurd member List.not_mem_nil⟩ bad

theorem member_starts (before member rest : List UInt8) (entries : List (Key × Literal))
    (blank : Blanks before) (item : Member member entries) :
    another closeBrace true rounds (before ++ (member ++ rest)) = .ok (true, member ++ rest) := by
  obtain ⟨tail, rfl⟩ := member_front member entries item
  exact another_first closeBrace rounds before _ quote blank rfl (by decide)

theorem comma_starts (after inside rest : List UInt8) (entries : List (Key × Literal))
    (blank : Blanks after) (items : Members inside entries) :
    another closeBrace false rounds (after ++ comma :: (inside ++ rest)) =
      another closeBrace true rounds (inside ++ rest) := by
  obtain ⟨before, tail, first, rfl⟩ := members_front inside entries items
  rw [List.append_assoc, List.cons_append,
    another_comma closeBrace rounds after before _ quote blank first rfl (by decide)
      (by decide),
    another_first closeBrace rounds before _ quote first rfl (by decide)]

theorem members_read (inside : List UInt8) (entries : List (Key × Literal))
    (items : Members inside entries) (flag : Bool) (seen : List Key) (settings settled : Settings)
    (text rest : List UInt8) (limit : Nat)
    (start : another closeBrace flag rounds text =
      another closeBrace true rounds (inside ++ closeBrace :: rest))
    (room : inside.length < limit) (enough : inside.length < rounds) (sound : Sound entries)
    (fresh : ∀ key ∈ entries.map Prod.fst, key ∉ seen)
    (assigned : settings.assignAll entries = some settled) :
    members limit flag seen settings rounds text = .ok (settled, rest) := by
  induction items generalizing flag seen settings text limit with
  | last before member after entries first item second =>
      obtain ⟨limit, rfl⟩ := Nat.exists_eq_succ_of_ne_zero (Nat.ne_zero_of_lt room)
      simp only [List.length_append] at room enough
      rw [List.append_assoc, List.append_assoc, member_starts rounds before member _ entries first
        item] at start
      rw [member_read rounds limit flag seen settings settled text member _ entries item start
        (ends_blank after _ second (ends_close .object rest)) (by omega) sound fresh assigned]
      obtain ⟨tail, rfl⟩ := member_front member entries item
      rw [List.length_cons] at room
      obtain ⟨limit, rfl⟩ := Nat.exists_eq_succ_of_ne_zero (Nat.ne_of_gt (by omega : 0 < limit))
      rw [members, bind_ok _ _ _ _ _ _ (another_close closeBrace rounds false after rest second rfl)]
      rfl
  | more before member after others entries later first item second items ih =>
      obtain ⟨limit, rfl⟩ := Nat.exists_eq_succ_of_ne_zero (Nat.ne_zero_of_lt room)
      simp only [List.length_append, List.length_cons] at room enough
      obtain ⟨early, late, apart⟩ := (sound_append entries later).mp sound
      rw [assign_all_append] at assigned
      obtain ⟨middle, assigned, assignedToo⟩ := Option.bind_eq_some_iff.mp assigned
      simp only [List.append_assoc, List.cons_append] at start
      rw [member_starts rounds before member _ entries first item] at start
      rw [List.map_append] at fresh
      rw [member_read rounds limit flag seen settings middle text member _ entries item start
        (ends_blank after _ second (ends_comma _)) (by omega) early
        (fun key member => fresh key (List.mem_append_left _ member)) assigned]
      refine ih false _ middle _ limit (comma_starts rounds after others _ later second items)
        (by omega) (by omega) late ?_ assignedToo
      intro key member
      rw [List.mem_append, not_or]
      exact ⟨apart key member, fresh key (List.mem_append_right _ member)⟩

theorem members_refused (inside : List UInt8) (entries : List (Key × Literal))
    (items : Members inside entries) (flag : Bool) (seen : List Key) (settings : Settings)
    (text rest : List UInt8) (limit : Nat)
    (start : another closeBrace flag rounds text =
      another closeBrace true rounds (inside ++ closeBrace :: rest))
    (room : inside.length < limit) (enough : inside.length < rounds)
    (bad : ¬(Sound entries ∧ ∀ key ∈ entries.map Prod.fst, key ∉ seen)) :
    ∃ defect, members limit flag seen settings rounds text = .error defect := by
  induction items generalizing flag seen settings text limit with
  | last before member after entries first item second =>
      obtain ⟨limit, rfl⟩ := Nat.exists_eq_succ_of_ne_zero (Nat.ne_zero_of_lt room)
      simp only [List.length_append] at enough
      rw [List.append_assoc, List.append_assoc, member_starts rounds before member _ entries first
        item] at start
      exact member_refused rounds limit flag seen settings text member _ entries item start
        (ends_blank after _ second (ends_close .object rest)) (by omega) bad
  | more before member after others entries later first item second items ih =>
      obtain ⟨limit, rfl⟩ := Nat.exists_eq_succ_of_ne_zero (Nat.ne_zero_of_lt room)
      simp only [List.length_append, List.length_cons] at room enough
      simp only [List.append_assoc, List.cons_append] at start
      rw [member_starts rounds before member _ entries first item] at start
      have ends := ends_blank after _ second (ends_comma (others ++ closeBrace :: rest))
      by_cases good : Sound entries ∧ ∀ key ∈ entries.map Prod.fst, key ∉ seen
      · obtain ⟨middle, assigned, -⟩ := assign_all_sets settings entries good.1
        rw [member_read rounds limit flag seen settings middle text member _ entries item start ends
          (by omega) good.1 good.2 assigned]
        refine ih false _ middle _ limit (comma_starts rounds after others _ later second items)
          (by omega) (by omega) fun both => bad ?_
        -- What is wrong with all of them and not with the first is wrong with the others.
        refine ⟨(sound_append entries later).mpr ⟨good.1, both.1, fun key member listed =>
          both.2 key member (List.mem_append_left _ listed)⟩, fun key member => ?_⟩
        rw [List.map_append] at member
        exact (List.mem_append.mp member).elim (good.2 key) fun late listed =>
          both.2 key late (List.mem_append_right _ listed)
      · exact member_refused rounds limit flag seen settings text member _ entries item start ends
          (by omega) good

theorem document_opens (before tail : List UInt8) (blank : Blanks before) :
    document rounds (before ++ openBrace :: tail) =
      members rounds true [] standard rounds tail := by
  rw [document, bind_ok _ _ _ _ _ _ (peek_read before tail openBrace rounds blank rfl),
    if_pos rfl, bind_ok _ _ _ _ _ _ (discard_next openBrace tail rounds)]
  rfl

theorem document_read (bytes : List UInt8) (entries : List (Key × Literal)) (settled : Settings)
    (written : Document bytes entries) (sound : Sound entries)
    (assigned : standard.assignAll entries = some settled) : ofBytes? bytes = .ok settled := by
  cases written with
  | empty before inside after first second third =>
      cases assigned
      refine run_ok document _ after standard third ?_
      rw [document_opens _ before _ first, members,
        bind_ok _ _ _ _ _ _ (another_close closeBrace _ true inside after second rfl)]
      rfl
  | filled before inside after _ first items second =>
      refine run_ok document _ after settled second ?_
      rw [document_opens _ before _ first]
      refine members_read _ inside entries items true [] standard settled _ after _ rfl ?_ ?_ sound
        (fun _ _ => List.not_mem_nil) assigned
      all_goals
        simp only [List.length_append, List.length_cons]
        omega

theorem document_refused (bytes : List UInt8) (entries : List (Key × Literal))
    (written : Document bytes entries) (bad : ¬Sound entries) :
    ∃ defect, ofBytes? bytes = .error defect := by
  cases written with
  | empty before inside after first second third =>
      exact absurd ⟨List.nodup_nil, fun _ member => absurd member List.not_mem_nil⟩ bad
  | filled before inside after _ first items second =>
      generalize rounds_eq : (before ++ openBrace :: (inside ++ closeBrace :: after)).length + 1 =
        rounds
      have longer : inside.length < rounds := by
        rw [← rounds_eq]
        simp only [List.length_append, List.length_cons]
        omega
      obtain ⟨defect, failed⟩ := members_refused rounds inside entries items true [] standard _ after
        rounds rfl longer longer fun both => bad both.1
      rw [← document_opens rounds before _ first] at failed
      refine ⟨defect, run_error document _ defect ?_⟩
      rwa [rounds_eq]

end Reading

section Loads

theorem load_failed (file : SettingsFile) (log : Log) (fault : SettingsFault)
    (failed : (open? file log).1 = .error fault) : (load file log).1 = standard := by
  rcases opened : open? file log with ⟨result, after⟩
  rw [opened] at failed
  rw [load, opened]
  cases failed
  rfl

theorem load_read (file : SettingsFile) (log : Log) (settings : Settings)
    (found : read file = .ok settings) (key : Key) :
    key.get (load file log).1 = key.repair (key.get settings) := by
  rw [load, open?, found]
  exact repaired_get settings _ key

theorem open_failed (file : SettingsFile) (log : Log) (fault : SettingsFault)
    (failed : read file = .error fault) : (open? file log).1 = .error fault := by
  rw [open?, failed]

theorem load_usable (file : SettingsFile) (log : Log) (key : Key) :
    key.usable (key.get (load file log).1) = true := by
  cases found : read file with
  | error fault =>
      rw [load_failed file log fault (open_failed file log fault found)]
      exact standard_usable key
  | ok settings =>
      rw [load_read file log settings found key]
      exact repair_usable key (key.get settings)

-- The fields that entries give, and the defaults for the others. Whether a float is what the text
-- says is told by one rounding, for numbers that are not long.
structure Settled (entries : List (Key × Literal)) (settings : Settings) : Prop where
  given : ∀ entry ∈ entries, ∀ field, entry.1.Takes entry.2 field →
    entry.1.get settings = entry.1.repair field
  near : ∀ entry ∈ entries, ∀ usual, entry.1.get standard = .real usual → entry.2.Short →
    ∃ x, Scalar.Nears x entry.2.value ∧ entry.1.get settings = entry.1.repair (.real x)
  absent : ∀ key, key ∉ entries.map Prod.fst → key.get settings = key.get standard

theorem settled_of_given (entries : List (Key × Literal)) (settings : Settings)
    (given : ∀ entry ∈ entries, ∀ field, entry.1.Takes entry.2 field →
      entry.1.get settings = entry.1.repair field)
    (absent : ∀ key, key ∉ entries.map Prod.fst → key.get settings = key.get standard) :
    Settled entries settings := by
  refine ⟨given, fun entry member usual real short => ?_, absent⟩
  obtain ⟨x, reads, nears⟩ := entry.2.real_of_short short
  refine ⟨x, nears, given entry member (.real x) ?_⟩
  simp only [Key.Takes, real]
  exact reads

theorem load_settled (bytes : List UInt8) (log : Log) (entries : List (Key × Literal))
    (written : Document bytes entries) (sound : Sound entries) :
    Settled entries (load (.contents bytes) log).1 := by
  obtain ⟨settled, assigned, given, absent⟩ := assign_all_sets standard entries sound
  have found : read (.contents bytes) = .ok settled := by
    rw [read, document_read bytes entries settled written sound assigned]
    rfl
  apply settled_of_given
  · intro entry member field takes
    rw [load_read _ log settled found, given entry member field takes]
  · intro key missing
    rw [load_read _ log settled found, absent key missing, repair_standard]

theorem load_refused (bytes : List UInt8) (log : Log) (entries : List (Key × Literal))
    (written : Document bytes entries) (bad : ¬Sound entries) :
    (load (.contents bytes) log).1 = standard := by
  obtain ⟨defect, failed⟩ := document_refused bytes entries written bad
  apply load_failed _ log (.defect defect)
  apply open_failed
  rw [read, failed]
  rfl

theorem settled_unique (entries shuffled : List (Key × Literal)) (first second : Settings)
    (sound : Sound entries) (same : entries.Perm shuffled) (settled : Settled entries first)
    (settledToo : Settled shuffled second) : first = second := by
  refine get_injective first second fun key => ?_
  by_cases member : key ∈ entries.map Prod.fst
  · obtain ⟨entry, present, rfl⟩ := List.mem_map.mp member
    obtain ⟨field, takes⟩ := sound.typed entry present
    rw [settled.given entry present field takes,
      settledToo.given entry (same.mem_iff.mp present) field takes]
  · have missing : key ∉ shuffled.map Prod.fst := fun listed =>
      member ((same.map Prod.fst).mem_iff.mpr listed)
    rw [settled.absent key member, settledToo.absent key missing]

theorem sound_perm (entries shuffled : List (Key × Literal)) (same : entries.Perm shuffled)
    (sound : Sound entries) : Sound shuffled :=
  ⟨(same.map Prod.fst).nodup_iff.mp sound.distinct, fun entry member =>
    sound.typed entry (same.mem_iff.mpr member)⟩

-- A file gives all that it says or nothing of it: nothing where its text is no object, and nothing
-- where a key is named twice or a value does not fit its key.
structure Loads (file : SettingsFile) (log : Log) : Prop where
  fit : Fit (load file log).1
  nothing : ∀ fault, (open? file log).1 = .error fault → (load file log).1 = standard
  all : ∀ bytes entries, file = .contents bytes → Document bytes entries → Sound entries →
    Settled entries (load file log).1
  refused : ∀ bytes entries, file = .contents bytes → Document bytes entries → ¬Sound entries →
    (load file log).1 = standard
  alike : ∀ bytes entries others shuffled logToo, file = .contents bytes →
    Document bytes entries → Sound entries → Document others shuffled → entries.Perm shuffled →
      (load (.contents others) logToo).1 = (load file log).1

theorem load_all_or_nothing (file : SettingsFile) (log : Log) : Loads file log where
  fit := fit_of_usable _ (load_usable file log)
  nothing := load_failed file log
  all := by
    rintro bytes entries rfl written sound
    exact load_settled bytes log entries written sound
  refused := by
    rintro bytes entries rfl written bad
    exact load_refused bytes log entries written bad
  alike := by
    rintro bytes entries others shuffled logToo rfl written sound writtenToo same
    have settled := load_settled bytes log entries written sound
    have settledToo := load_settled others logToo shuffled writtenToo
      (sound_perm entries shuffled same sound)
    exact (settled_unique entries shuffled _ _ sound same settled settledToo).symm

def partialFile : List UInt8 :=
  utf8 " \x7b\"er\": 0, \"x\": [1, \x7b\"y\": null\x7d], \"wrad\": 3.1, \"version\": 3\x7d\n"

def digit (byte : UInt8) (digit : isDigit byte = true) : Digits :=
  ⟨[byte], fun _ member => by rwa [List.mem_singleton.mp member], List.cons_ne_nil _ _⟩

def shortLiteral (byte : UInt8) (decimals : Option Digits) (whole : isDigit byte = true) :
    Literal where
  negative := false
  whole := digit byte whole
  leading := fun head => congrArg (fun byte => [byte]) (Option.some.inj head)
  decimals := decimals
  power := none

def partialEntries : List (Key × Literal) :=
  [(.er, shortLiteral 0x30 none rfl), (.wrad, shortLiteral 0x33 (some (digit 0x31 rfl)) rfl),
    (.version, shortLiteral 0x33 none rfl)]

theorem partial_file_written : Document partialFile partialEntries := by
  have blank : Blanks [0x20] := by decide
  have er := Member.known .er (utf8 "er") [] [0x20] (shortLiteral 0x30 none rfl)
    (spelled_plain _ _ (by decide +kernel)) blanks_nil blank
  have radius := Member.known .wrad (utf8 "wrad") [] [0x20]
    (shortLiteral 0x33 (some (digit 0x31 rfl)) rfl) (spelled_plain _ _ (by decide +kernel))
    blanks_nil blank
  have version := Member.known .version (utf8 "version") [] [0x20] (shortLiteral 0x33 none rfl)
    (spelled_plain _ _ (by decide +kernel)) blanks_nil blank
  have label := Label.object [] (utf8 "y") (utf8 "y") [] [0x20] blanks_nil
    (spelled_plain _ _ (by decide +kernel)) blanks_nil blank
  have object := Phrase.filled .object _ (.last .object _ _ [] label (.word 0x6e _ rfl) blanks_nil)
  have list := Phrase.filled .list _ (.more .list [] _ [] _ (.list [] blanks_nil)
    (.number (shortLiteral 0x31 none rfl)) blanks_nil
      (.last .list [0x20] _ [] (.list [0x20] blank) object blanks_nil))
  have unknown := Member.unknown "x" (utf8 "x") [] [0x20] _ (by decide +kernel)
    (spelled_plain _ _ (by decide +kernel)) blanks_nil blank list
  have written := Document.filled [0x20] _ [0x0a] _ blank
    (.more [] _ [] _ _ _ blanks_nil er blanks_nil
      (.more [0x20] _ [] _ _ _ blank unknown blanks_nil
        (.more [0x20] _ [] _ _ _ blank radius blanks_nil
          (.last [0x20] _ [] _ blank version blanks_nil)))) (by decide)
  exact written

theorem partial_file_loads : Document partialFile partialEntries ∧ Sound partialEntries ∧
    (load (.contents partialFile) {}).1.version = 3 ∧
      (load (.contents partialFile) {}).1.pulses = 2376 ∧
      (load (.contents partialFile) {}).1.wheelRadius = 3.1 ∧
      (load (.contents partialFile) {}).1.maxSpeed = 15.0 := by
  have pulses : Key.er.Takes (shortLiteral 0x30 none rfl) (.count 0) :=
    (takes_iff _ _ _).mpr rfl
  have radius : Key.wrad.Takes (shortLiteral 0x33 (some (digit 0x31 rfl)) rfl) (.real 3.1) :=
    (takes_iff _ _ _).mpr rfl
  have version : Key.version.Takes (shortLiteral 0x33 none rfl) (.whole 3) :=
    (takes_iff _ _ _).mpr rfl
  have sound : Sound partialEntries := by
    refine ⟨by decide, fun entry member => ?_⟩
    simp only [partialEntries, List.mem_cons, List.not_mem_nil, or_false] at member
    rcases member with rfl | rfl | rfl
    · exact ⟨_, pulses⟩
    · exact ⟨_, radius⟩
    · exact ⟨_, version⟩
  have settled := (load_all_or_nothing (.contents partialFile) {}).all _ _ rfl
    partial_file_written sound
  have repaired := settled.given _ List.mem_cons_self _ pulses
  have given := settled.given _ (List.mem_cons_of_mem _ List.mem_cons_self) _ radius
  have last := settled.given _
    (List.mem_cons_of_mem _ (List.mem_cons_of_mem _ List.mem_cons_self)) _ version
  have absent := settled.absent .maxs (by decide)
  exact ⟨partial_file_written, sound, Field.whole.inj last, Field.count.inj repaired,
    Field.real.inj given, Field.real.inj absent⟩

end Loads

end Rover.Settings
