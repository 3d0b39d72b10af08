import Mathlib.Data.List.TakeDrop
import Mathlib.Tactic.SplitIfs
import SqlLens.Render.Quote
import SqlLens.Sql.Lexer

namespace SqlLens.Sql.Lexer

variable {d : Dialect} {c : Char} {cs cs' rest : List Char} {t : Token} {ts ts' : List Token}
  {prev prev' prev'' : Option Token}

-- Behind the token `prev`, the characters in front of `rest` are cut into the tokens `ts`, and what
-- is left is cut as it would be behind `prev'`.
def CutsFrom (d : Dialect) (prev : Option Token) (cs : List Char) (ts : List Token)
    (prev' : Option Token) (rest : List Char) : Prop :=
  ∀ n gap p, (cs ++ rest).length ≤ n → ∃ ls m gap' p', rest.length ≤ m ∧
    ls.map (·.token) = ts ∧
    lexFrom d n prev gap p (cs ++ rest) = (ls ++ ·) <$> lexFrom d m prev' gap' p' rest

-- The same, whatever stands before the characters.
def Cuts (d : Dialect) (cs : List Char) (ts : List Token) (rest : List Char) : Prop :=
  ∀ prev, ∃ prev', CutsFrom d prev cs ts prev' rest

namespace CutsFrom

theorem nil : CutsFrom d prev [] [] prev rest := by
  intro n gap p h
  refine ⟨[], n, gap, p, by simpa using h, rfl, ?_⟩
  simp

theorem append (h : CutsFrom d prev cs ts prev' (cs' ++ rest))
    (h' : CutsFrom d prev' cs' ts' prev'' rest) :
    CutsFrom d prev (cs ++ cs') (ts ++ ts') prev'' rest := by
  intro n gap p hn
  rw [List.append_assoc] at hn ⊢
  have ⟨ls, m, gap', p', hm, tokens, e⟩ := h n gap p hn
  have ⟨ls', m', gap'', p'', hm', tokens', e'⟩ := h' m gap' p' hm
  refine ⟨ls ++ ls', m', gap'', p'', hm', by simp [tokens, tokens'], ?_⟩
  rw [e, e']
  cases lexFrom d m' prev'' gap'' p'' rest <;> simp [Functor.map, Except.map]

theorem token (h : scan d prev c (cs ++ rest) = .ok (.token t, rest)) :
    CutsFrom d prev (c :: cs) [t] (some t) rest := by
  intro n gap p hn
  cases n
  case zero => simp at hn
  case succ n =>
    let behind := advance p (cs.length + rest.length + 1 - rest.length) (c :: (cs ++ rest))
    refine ⟨[⟨t, p, gap⟩], n, none, behind, by simp at hn; omega, rfl, ?_⟩
    simp only [List.cons_append, lexFrom, h, List.length_append]
    rfl

theorem gap {s : String} (h : scan d prev c (cs ++ rest) = .ok (.gap s, rest)) :
    CutsFrom d prev (c :: cs) [] none rest := by
  intro n gap p hn
  cases n
  case zero => simp at hn
  case succ n =>
    let behind := advance p (cs.length + rest.length + 1 - rest.length) (c :: (cs ++ rest))
    refine ⟨[], n, gap.or (some (s, p)), behind, by simp at hn; omega, rfl, ?_⟩
    simp only [List.cons_append, lexFrom, h, List.length_append]
    exact (id_map _).symm

end CutsFrom

-- The first step takes the characters in front of `rest`, all of them and no more, as one token.
def Scans (d : Dialect) (cs : List Char) (t : Token) (rest : List Char) : Prop :=
  ∃ c cs', cs = c :: cs' ∧ ∀ prev, scan d prev c (cs' ++ rest) = .ok (.token t, rest)

theorem Scans.cutsFrom (h : Scans d cs t rest) : CutsFrom d prev cs [t] (some t) rest := by
  obtain ⟨_, _, rfl, scanned⟩ := h
  exact .token (scanned prev)

namespace Cuts

theorem nil : Cuts d [] [] rest := fun prev => ⟨prev, .nil⟩

theorem append (h : Cuts d cs ts (cs' ++ rest)) (h' : Cuts d cs' ts' rest) :
    Cuts d (cs ++ cs') (ts ++ ts') rest := by
  intro prev
  have ⟨prev', h⟩ := h prev
  have ⟨prev'', h'⟩ := h' prev'
  exact ⟨prev'', h.append h'⟩

theorem token (h : ∀ prev, scan d prev c (cs ++ rest) = .ok (.token t, rest)) :
    Cuts d (c :: cs) [t] rest := fun prev => ⟨some t, .token (h prev)⟩

theorem blank : Cuts d [' '] [] rest := by
  intro prev
  exact ⟨none, .gap (s := " ") rfl⟩

theorem opening : Cuts d ['('] [.symbol "("] rest := by
  apply token
  cases d <;> exact fun _ => rfl

theorem closing : Cuts d [')'] [.symbol ")"] rest := by
  apply token
  cases d <;> exact fun _ => rfl

theorem comma : Cuts d [','] [.symbol ","] rest := by
  apply token
  cases d <;> exact fun _ => rfl

end Cuts

theorem lex_of_cuts {text : String} (h : Cuts d text.toList ts []) :
    ∃ ls, lex d text = .ok ls ∧ ls.map (·.token) = ts ++ [.eof] := by
  have ⟨prev', h⟩ := h none
  have ⟨ls, m, gap, p, _, tokens, e⟩ := h (text.toList.length + 1) none ⟨1, 1⟩ (by simp)
  rw [List.append_nil] at e
  refine ⟨ls ++ [⟨.eof, ⟨0, 0⟩, gap⟩], ?_, by simp [tokens]⟩
  rw [lex, e]
  cases m <;> rfl

section Words

-- What may stand behind a word.
def EndsWord (rest : List Char) : Prop := ∀ c ∈ rest.head?, c ∈ [' ', '(', ')', ',', '.', ';']

def startsWord (c : Char) : Bool := Text.isAsciiLetter c || c == '_'

theorem continuesName_of_mem (h : c ∈ [' ', '(', ')', ',', '.', ';', '\x27', '\x22', '&']) :
    d.continuesName c = false := by
  have all : [' ', '(', ')', ',', '.', ';', '\x27', '\x22', '&'].all (!d.continuesName ·) := by
    cases d <;> rfl
  simpa using List.all_eq_true.mp all c h

theorem EndsWord.head?_ne (hr : EndsWord rest) (h : c ∉ [' ', '(', ')', ',', '.', ';']) :
    rest.head? ≠ some c := fun e => h (hr c e)

theorem EndsWord.stops (hr : EndsWord rest) : ∀ c ∈ rest.head?, d.continuesName c = false := by
  intro c hc
  apply continuesName_of_mem
  have := hr c hc
  simp only [List.mem_cons, List.not_mem_nil, or_false] at this ⊢
  tauto

theorem span_of_ends {p : Char → Bool} (hcs : ∀ x ∈ cs, p x) (ends : ∀ x ∈ rest.head?, p x = false) :
    (cs ++ rest).span p = (cs, rest) := by
  have stop : rest.takeWhile p = [] ∧ rest.dropWhile p = rest := by
    cases rest
    case nil => simp
    case cons c rest => simp [ends c rfl]
  rw [List.span_eq_takeWhile_dropWhile, List.takeWhile_append_of_pos hcs,
    List.dropWhile_append_of_pos hcs, stop.1, stop.2, List.append_nil]

theorem span_word (hcs : ∀ x ∈ cs, d.continuesName x) (hr : EndsWord rest) :
    (cs ++ rest).span d.continuesName = (cs, rest) := span_of_ends hcs hr.stops

theorem word_eq {start : List Char} (hcs : ∀ x ∈ cs, d.continuesName x) (hr : EndsWord rest) :
    word d start (cs ++ rest) = (.token (Token.ofWord (.ofList (start ++ cs))), rest) := by
  rw [word, span_word hcs hr]

theorem unquoted (hcs : ∀ x ∈ cs, d.continuesName x) (hr : EndsWord rest) :
    ∀ x ∈ (cs ++ rest).head?, x ≠ '\x27' ∧ x ≠ '\x22' ∧ x ≠ '&' := by
  intro x hx
  have marks : ∀ y, y = '\x27' ∨ y = '\x22' ∨ y = '&' → d.continuesName y = false := by
    intro y hy
    apply continuesName_of_mem
    simp only [List.mem_cons, List.not_mem_nil, or_false]
    tauto
  cases cs
  case nil =>
    have := hr x hx
    simp only [List.mem_cons, List.not_mem_nil, or_false] at this
    obtain rfl | rfl | rfl | rfl | rfl | rfl := this <;> decide
  case cons c cs =>
    obtain rfl : c = x := by simpa using hx
    have := hcs c List.mem_cons_self
    grind

theorem delimited_eq {lead : List Char} (h : cs.head? ≠ some '\x27') :
    delimited d lead cs = .ok (word d lead cs) := by
  unfold delimited
  split
  · simp at h
  · rfl

-- A letter that may introduce a string does so only in front of a quote. `nq` and `q` take the
-- quote behind the `q`.
theorem eq_word_of_lettered? {step : Step Item} (hs : lettered? d c cs = some step)
    (h : ∀ x ∈ cs.head?, x ≠ '\x27' ∧ x ≠ '\x22' ∧ x ≠ '&')
    (h' : ∀ q more, cs = q :: more → q = 'q' ∨ q = 'Q' → more.head? ≠ some '\x27') :
    step = .ok (word d [c] cs) ∨
      ∃ q more, cs = q :: more ∧ (q = 'q' ∨ q = 'Q') ∧ step = .ok (word d [c, q] more) := by
  unfold lettered? at hs
  cases cs
  case nil =>
    simp only [delimited] at hs
    split_ifs at hs <;> exact .inl (Option.some.inj hs).symm
  case cons q more =>
    obtain ⟨single, double, ampersand⟩ := h q rfl
    have unmarked : (q :: more).head? ≠ some '\x27' := by simpa using single
    simp only [List.find?_cons, List.find?_nil, beq_eq_false_iff_ne.mpr single.symm,
      beq_eq_false_iff_ne.mpr double.symm, delimited_eq unmarked] at hs
    split_ifs at hs
    all_goals first | exact .inl (Option.some.inj hs).symm | skip
    · have hq := ‹((q == 'q' || q == 'Q') && d.hasDelimitedStrings) = true›
      simp only [Bool.and_eq_true, Bool.or_eq_true, beq_iff_eq] at hq
      rw [delimited_eq (h' q more rfl hq.1)] at hs
      exact .inr ⟨q, more, rfl, hq.1, (Option.some.inj hs).symm⟩
    all_goals
      split at hs
      case h_1 e => simp [single, ampersand] at e
      case h_2 => exact .inl (Option.some.inj hs).symm

-- The characters that symbols begin with.
def symbolStarts : List Char := "-/%|=!<>:&^~#@?(),+*;\\[]\x7b\x7d".toList

theorem symbolic?_eq_none (hc : c ∉ symbolStarts) : symbolic? d c cs = none := by
  have lone : "(),+*;\\[]\x7b\x7d".toList.contains c = false := by
    rw [List.contains_eq_mem, decide_eq_false_iff_not]
    intro h
    have all : "(),+*;\\[]\x7b\x7d".toList.all (symbolStarts.contains ·) := rfl
    exact hc (List.contains_iff_mem.mp (List.all_eq_true.mp all c h))
  unfold symbolic?
  split
  all_goals first | exact absurd (by decide) hc | skip
  rw [lone]
  rfl

theorem isAscii_of_isAsciiLetter (h : Text.isAsciiLetter c) : Text.isAscii c := by
  simp only [Text.isAsciiLetter, Text.isAscii, Char.le_def, UInt32.le_iff_toNat_le, Char.toNat]
    at h ⊢
  grind

theorem isLetter_of_isAsciiLetter (h : Text.isAsciiLetter c) : Text.isLetter c := by
  rw [Text.isLetter, if_pos (isAscii_of_isAsciiLetter h)]
  exact h

theorem opensName_of_startsWord (hc : startsWord c) : d.opensName c := by
  simp only [startsWord, Bool.or_eq_true, beq_iff_eq] at hc
  obtain hc | rfl := hc
  case inl => cases d <;> simp [Dialect.opensName, isLetter_of_isAsciiLetter hc, hc]
  case inr => cases d <;> rfl

theorem isAsciiDigit_of_startsWord (hc : startsWord c) : Text.isAsciiDigit c = false := by
  simp only [startsWord, Bool.or_eq_true, beq_iff_eq] at hc
  obtain hc | rfl := hc
  case inl =>
    simp only [Text.isAsciiLetter, Text.isAsciiDigit, Char.le_def, UInt32.le_iff_toNat_le] at hc ⊢
    grind
  case inr => rfl

theorem scan_of_lettered? {step : Step Item} (hcs : ∀ x ∈ cs, d.continuesName x)
    (hr : EndsWord rest) (hs : lettered? d c (cs ++ rest) = some step) :
    step = .ok (.token (Token.ofWord (.ofList (c :: cs))), rest) := by
  have inside : ∀ q more, cs ++ rest = q :: more → q = 'q' ∨ q = 'Q' →
      ∃ cs', cs = q :: cs' ∧ more = cs' ++ rest := by
    intro q more e hq
    cases cs
    case nil =>
      have := hr q (by simp_all)
      grind
    case cons c cs => simp_all
  have behind : ∀ q more, cs ++ rest = q :: more → q = 'q' ∨ q = 'Q' →
      more.head? ≠ some '\x27' := by
    intro q more e hq h
    have ⟨cs', hcs', hmore⟩ := inside q more e hq
    subst hcs' hmore
    exact (unquoted (List.forall_mem_cons.mp hcs).2 hr _ h).1 rfl
  cases eq_word_of_lettered? hs (unquoted hcs hr) behind
  case inl h => rw [h, word_eq hcs hr, List.singleton_append]
  case inr h =>
    have ⟨q, more, e, hq, h⟩ := h
    have ⟨cs', hcs', hmore⟩ := inside q more e hq
    subst hcs' hmore
    rw [h, word_eq (List.forall_mem_cons.mp hcs).2 hr]
    rfl

theorem scan_word (hc : startsWord c) (hcs : ∀ x ∈ cs, d.continuesName x) (hr : EndsWord rest) :
    scan d prev c (cs ++ rest) = .ok (.token (Token.ofWord (.ofList (c :: cs))), rest) := by
  have other (x : Char) (hx : startsWord x = false) : (c == x) = false := by
    rw [beq_eq_false_iff_ne]
    rintro rfl
    simp [hx] at hc
  have symbolic : symbolic? d c (cs ++ rest) = none := by
    apply symbolic?_eq_none
    intro h
    have all : symbolStarts.all (!startsWord ·) := rfl
    simpa [hc] using List.all_eq_true.mp all c h
  have named : d.opensQuotedName c = false := by
    cases d <;> simp only [Dialect.opensQuotedName, other '\x22' rfl, other '\x60' rfl,
      other '[' rfl, Bool.or_false]
  have digit := isAsciiDigit_of_startsWord hc
  have numeric : ([c] ++ cs).all (fun c => Text.isAsciiDigit c || c == '.') = false := by
    simp only [List.cons_append, List.all_cons, digit, other '.' rfl, Bool.or_false, Bool.false_and]
  simp only [scan, other ' ' rfl, other '\t' rfl, other '\n' rfl, other '\r' rfl, Bool.or_false,
    Bool.false_eq_true, if_false]
  cases hs : lettered? d c (cs ++ rest)
  case some step => exact scan_of_lettered? hcs hr hs
  case none =>
    simp only [other '\x27' rfl, other '\x22' rfl, named, digit, other '.' rfl, symbolic,
      Bool.or_false, Bool.false_and, Bool.false_eq_true, if_false, opensName_of_startsWord hc,
      if_true, wordOrNumber, span_word hcs hr, numeric]
    rfl

end Words

section Quotes

variable {mark : Char} {keep : Bool}

theorem quotedBody_replaceChar (h : rest.head? ≠ some mark) :
    quotedBody mark false keep (Text.replaceChar mark [mark, mark] cs ++ mark :: rest) =
      some (cs, rest) := by
  induction cs
  case nil =>
    cases rest
    case nil => simp [Text.replaceChar, quotedBody]
    case cons c rest =>
      have : c ≠ mark := by simpa using h
      simp [Text.replaceChar, quotedBody, this]
  case cons c cs hi =>
    simp only [Text.replaceChar, List.flatMap_cons] at hi ⊢
    by_cases hc : c = mark
    case pos =>
      simp only [hc, beq_self_eq_true, if_true, List.cons_append, List.nil_append, quotedBody, hi,
        Option.map_some]
    case neg =>
      simp only [beq_eq_false_iff_ne.mpr hc, Bool.false_eq_true, if_false, List.cons_append,
        List.nil_append]
      rw [quotedBody.eq_def]
      simp only [beq_eq_false_iff_ne.mpr hc, hi, Bool.false_and, Bool.false_eq_true, if_false,
        Option.map_some]

-- Single quotes, for dialects in which a backslash is a character like any other.
theorem scan_quoteString (hd : d.escapesByBackslash = false) (h : rest.head? ≠ some '\x27') :
    scan d prev '\x27' (Text.replaceChar '\x27' ['\x27', '\x27'] cs ++ '\x27' :: rest) =
      .ok (.token (.string .single (.ofList cs)), rest) := by
  have letter : lettered? d '\x27' (Text.replaceChar '\x27' ['\x27', '\x27'] cs ++ '\x27' :: rest) =
    none := by cases d <;> rfl
  simp [scan, letter, quoted, hd, quotedBody_replaceChar h]

theorem scan_quotedName (hd : d.opensQuotedName '\x22') (h : rest.head? ≠ some '\x22') :
    scan d prev '\x22' (Text.replaceChar '\x22' ['\x22', '\x22'] cs ++ '\x22' :: rest) =
      .ok (.token (.word (.ofList cs) "" (some '\x22')), rest) := by
  have letter : lettered? d '\x22' (Text.replaceChar '\x22' ['\x22', '\x22'] cs ++ '\x22' :: rest) =
    none := by cases d <;> rfl
  simp [scan, letter, hd, quotedName, closingQuote, quotedBody_replaceChar h]

end Quotes

section Numbers

-- What may stand behind an operand.
def EndsOperand (rest : List Char) : Prop := ∀ c ∈ rest.head?, c ∈ [' ', ')', ',', ';']

theorem EndsOperand.endsWord (hr : EndsOperand rest) : EndsWord rest := by
  intro c hc
  have := hr c hc
  simp only [List.mem_cons, List.not_mem_nil, or_false] at this ⊢
  tauto

variable {whole fraction power : List Char}

theorem digitRun_eq {separators : Bool} (hcs : ∀ x ∈ cs, Text.isAsciiDigit x)
    (hr : ∀ x ∈ rest.head?, Text.isAsciiDigit x = false ∧ x ≠ '_') :
    digitRun separators Text.isAsciiDigit (cs ++ rest) = (cs, rest) := by
  induction cs
  case nil =>
    cases rest
    case nil => rfl
    case cons x rest => simp [digitRun, hr x rfl]
  case cons x cs hi =>
    have ⟨hx, hcs⟩ := List.forall_mem_cons.mp hcs
    simp [digitRun, hx, hi hcs]

-- The exponent of a numeral, or nothing.
def isPower (power : List Char) : Prop :=
  power = [] ∨ ∃ e sign c cs, (e = 'e' ∨ e = 'E') ∧ (sign = [] ∨ sign = ['+'] ∨ sign = ['-']) ∧
    Text.isAsciiDigit c ∧ (∀ x ∈ cs, Text.isAsciiDigit x) ∧ power = e :: sign ++ c :: cs

theorem EndsOperand.cases (hr : EndsOperand rest) :
    rest = [] ∨ ∃ more, rest = ' ' :: more ∨ rest = ')' :: more ∨ rest = ',' :: more ∨
      rest = ';' :: more := by
  cases rest
  case nil => exact .inl rfl
  case cons c more =>
    have := hr c rfl
    right
    exact ⟨more, by simpa using this⟩

theorem EndsOperand.not_long (hr : EndsOperand rest) (more : List Char) : rest ≠ 'L' :: more := by
  obtain rfl | ⟨_, rfl | rfl | rfl | rfl⟩ := hr.cases <;> nofun

-- What stands behind the digits of a numeral.
theorem isPower.cases (hp : isPower power) (hr : EndsOperand rest) :
    power ++ rest = [] ∨
      ∃ c more, power ++ rest = c :: more ∧ c ∈ [' ', ')', ',', ';', 'e', 'E'] := by
  obtain rfl | ⟨e, sign, c, cs, he, _, _, _, rfl⟩ := hp
  case inl =>
    obtain rfl | ⟨more, rfl | rfl | rfl | rfl⟩ := hr.cases
    case inl => exact .inl rfl
    all_goals exact .inr ⟨_, _, rfl, by simp⟩
  case inr =>
    refine .inr ⟨e, _, rfl, ?_⟩
    obtain rfl | rfl := he <;> simp

theorem span_digits (hcs : ∀ x ∈ cs, Text.isAsciiDigit x) (hr : EndsOperand rest) :
    (cs ++ rest).span Text.isAsciiDigit = (cs, rest) := by
  refine span_of_ends hcs fun c hc => ?_
  obtain rfl | ⟨more, rfl | rfl | rfl | rfl⟩ := hr.cases <;> cases hc <;> rfl

theorem exponent_eq (hp : isPower power) (hr : EndsOperand rest) :
    exponent (power ++ rest) = (power, rest) := by
  obtain rfl | ⟨e, sign, c, cs, he, hs, hc, hcs, rfl⟩ := hp
  case inl => obtain rfl | ⟨more, rfl | rfl | rfl | rfl⟩ := hr.cases <;> rfl
  case inr =>
    have run := span_digits (List.forall_mem_cons.mpr ⟨hc, hcs⟩) hr
    have marked : (e == 'e' || e == 'E') = true := by simpa using he
    have plus : c ≠ '+' := by
      rintro rfl
      cases hc
    have minus : c ≠ '-' := by
      rintro rfl
      cases hc
    obtain rfl | rfl | rfl := hs
    all_goals
      simp only [List.cons_append] at run
      simp_all [exponent]

section Mantissa

variable (hd : d.hasNumericNames = false) (hp : isPower power) (hr : EndsOperand rest)

include hp hr

theorem digitRun_power (separators : Bool) (hcs : ∀ x ∈ cs, Text.isAsciiDigit x) :
    digitRun separators Text.isAsciiDigit (cs ++ (power ++ rest)) = (cs, power ++ rest) := by
  apply digitRun_eq hcs
  intro x hx
  obtain e | ⟨c, more, e, hc⟩ := hp.cases hr
  all_goals rw [e] at hx
  case inl => cases hx
  case inr =>
    obtain rfl : c = x := by simpa using hx
    have digits : [' ', ')', ',', ';', 'e', 'E'].all fun c => !Text.isAsciiDigit c && c != '_' := rfl
    simpa using List.all_eq_true.mp digits c hc

include hd

theorem number_eq (hc : Text.isAsciiDigit c) (hcs : ∀ x ∈ cs, Text.isAsciiDigit x) :
    number d prev (c :: cs ++ (power ++ rest)) =
      .ok (.token (.number (.ofList (c :: cs ++ power)) false), rest) := by
  have point : c ≠ '.' := by
    rintro rfl
    cases hc
  have run := digitRun_power hp hr d.hasDigitSeparators (List.forall_mem_cons.mpr ⟨hc, hcs⟩)
  have run' := digitRun_power hp hr d.hasDigitSeparators (List.forall_mem_nil _)
  have exponent := exponent_eq hp hr
  have short := hr.not_long
  have behind := hp.cases hr
  generalize power ++ rest = tail at *
  obtain rfl | ⟨x, more, rfl, hx⟩ := behind
  case inl => simp_all [number]
  case inr =>
    simp only [List.mem_cons, List.not_mem_nil, or_false] at hx
    obtain rfl | rfl | rfl | rfl | rfl | rfl := hx
    all_goals simp_all [number]

theorem number_point_eq (hc : Text.isAsciiDigit c) (hcs : ∀ x ∈ cs, Text.isAsciiDigit x)
    (hf : ∀ x ∈ fraction, Text.isAsciiDigit x) :
    number d prev (c :: cs ++ ('.' :: fraction ++ (power ++ rest))) =
      .ok (.token (.number (.ofList (c :: cs ++ '.' :: fraction ++ power)) false), rest) := by
  have point : c ≠ '.' := by
    rintro rfl
    cases hc
  have run : digitRun d.hasDigitSeparators Text.isAsciiDigit
      (c :: cs ++ ('.' :: fraction ++ (power ++ rest))) =
      (c :: cs, '.' :: fraction ++ (power ++ rest)) := by
    apply digitRun_eq (List.forall_mem_cons.mpr ⟨hc, hcs⟩)
    intro x hx
    obtain rfl : '.' = x := by simpa using hx
    decide
  have run' := digitRun_power hp hr d.hasDigitSeparators hf
  have exponent := exponent_eq hp hr
  have short := hr.not_long
  generalize power ++ rest = tail at *
  simp_all [number]

theorem number_fraction_eq (hc : Text.isAsciiDigit c) (hcs : ∀ x ∈ cs, Text.isAsciiDigit x) :
    number d prev ('.' :: (c :: cs ++ (power ++ rest))) =
      .ok (.token (.number (.ofList ('.' :: c :: cs ++ power)) false), rest) := by
  have underscore : c ≠ '_' := by
    rintro rfl
    cases hc
  have run : digitRun d.hasDigitSeparators Text.isAsciiDigit ('.' :: (c :: cs ++ (power ++ rest))) =
      ([], '.' :: (c :: cs ++ (power ++ rest))) := by simp [digitRun, Text.isAsciiDigit]
  have run' := digitRun_power hp hr d.hasDigitSeparators (List.forall_mem_cons.mpr ⟨hc, hcs⟩)
  have exponent := exponent_eq hp hr
  have short := hr.not_long
  generalize power ++ rest = tail at *
  simp_all [number]

end Mantissa

-- A numeral: digits, with or without a point before, between or behind them, and perhaps an
-- exponent.
def isNumeral (s : List Char) : Prop :=
  ∃ c cs power, Text.isAsciiDigit c ∧ (∀ x ∈ cs, Text.isAsciiDigit x) ∧ isPower power ∧
    (s = c :: cs ++ power ∨ s = '.' :: c :: cs ++ power ∨
      ∃ fraction, (∀ x ∈ fraction, Text.isAsciiDigit x) ∧ s = c :: cs ++ '.' :: fraction ++ power)

theorem scan_digit (hc : Text.isAsciiDigit c) : scan d prev c cs = number d prev (c :: cs) := by
  have other (x : Char) (hx : Text.isAsciiDigit x = false) : (c == x) = false := by
    rw [beq_eq_false_iff_ne]
    rintro rfl
    simp [hx] at hc
  have letter : lettered? d c cs = none := by
    simp only [lettered?, other 'b' rfl, other 'B' rfl, other 'r' rfl, other 'R' rfl, other 'n' rfl,
      other 'N' rfl, other 'q' rfl, other 'Q' rfl, other 'e' rfl, other 'E' rfl, other 'u' rfl,
      other 'U' rfl, other 'x' rfl, other 'X' rfl, Bool.or_false, Bool.false_and,
      Bool.false_eq_true, if_false]
  have unquoted : d.opensQuotedName c = false := by
    cases d <;> simp only [Dialect.opensQuotedName, other '\x22' rfl, other '\x60' rfl,
      other '[' rfl, Bool.or_false]
  simp only [scan, letter, unquoted, hc, other ' ' rfl, other '\t' rfl, other '\n' rfl,
    other '\r' rfl, other '\x27' rfl, other '\x22' rfl, Bool.or_false, Bool.false_and, Bool.true_or,
    Bool.false_eq_true, if_false, if_true]

theorem cuts_numeral (hd : d.hasNumericNames = false) (hs : isNumeral cs) (hr : EndsOperand rest) :
    Cuts d cs [.number (.ofList cs) false] rest := by
  have ⟨c, whole, power, hc, hw, hp, h⟩ := hs
  obtain rfl | rfl | ⟨fraction, hf, rfl⟩ := h
  all_goals
    apply Cuts.token
    intro prev
  case inl =>
    refine (scan_digit hc).trans ?_
    simpa using number_eq hd hp hr hc hw
  case inr.inl =>
    have point : scan d prev '.' (c :: whole ++ (power ++ rest)) =
        number d prev ('.' :: (c :: whole ++ (power ++ rest))) := by
      cases d <;> rfl
    simpa using point.trans (number_fraction_eq hd hp hr hc hw)
  case inr.inr =>
    refine (scan_digit hc).trans ?_
    simpa using number_point_eq hd hp hr hc hw hf

end Numbers

section Names

-- A text that is one word without quotes.
def isWord (d : Dialect) (s : String) : Bool :=
  match s.toList with
  | [] => false
  | c :: cs => startsWord c && cs.all d.continuesName

theorem scans_word (hs : isWord d s) (hr : EndsWord rest) :
    Scans d s.toList (Token.ofWord s) rest := by
  unfold isWord at hs
  split at hs
  case h_1 => cases hs
  case h_2 c cs e =>
    simp only [Bool.and_eq_true, List.all_eq_true] at hs
    refine ⟨c, cs, e, fun prev => ?_⟩
    have scanned : scan d prev c (cs ++ rest) = _ := scan_word hs.1 hs.2 hr
    rwa [← e, String.ofList_toList] at scanned

theorem cuts_word (hs : isWord d s) (hr : EndsWord rest) : Cuts d s.toList [Token.ofWord s] rest :=
  fun _ => ⟨_, (scans_word hs hr).cutsFrom⟩

-- The token of a name, with quotes around it where it needs them.
def nameToken (name : String) : Token :=
  if Render.isPlain name then Token.ofWord name else .word name "" (some '\x22')

theorem continuesName_of_continuesPlain (hd : d = .generic ∨ d = .postgresql)
    (h : Render.continuesPlain c) : d.continuesName c := by
  have letter : Render.isLowercase c → Text.isLetter c := by
    intro h
    exact isLetter_of_isAsciiLetter (Bool.or_eq_true _ _ ▸ .inl h)
  simp only [Render.continuesPlain, Bool.or_eq_true, beq_iff_eq] at h
  obtain rfl | rfl := hd
  all_goals
    simp only [Dialect.continuesName, Bool.or_eq_true, beq_iff_eq]
    tauto

theorem isWord_of_isPlain (hd : d = .generic ∨ d = .postgresql) (h : Render.isPlain name) :
    isWord d name := by
  unfold Render.isPlain at h
  unfold isWord
  generalize name.toList = letters at h ⊢
  cases letters with
  | nil => cases h
  | cons c cs =>
    simp only [Bool.and_eq_true, List.all_eq_true] at h ⊢
    refine ⟨?_, fun x hx => continuesName_of_continuesPlain hd (h.1.2 x hx)⟩
    have := h.1.1
    simp only [Render.startsPlain, startsWord, Text.isAsciiLetter, Render.isLowercase,
      Bool.or_eq_true] at this ⊢
    tauto

theorem scans_quoteIdent (hd : d = .generic ∨ d = .postgresql) (hr : EndsWord rest)
    (name : String) : Scans d (Render.quoteIdent name).toList (nameToken name) rest := by
  unfold Render.quoteIdent nameToken
  split
  case isTrue plain => exact scans_word (isWord_of_isPlain hd plain) hr
  case isFalse =>
    have quote : d.opensQuotedName '\x22' := by obtain rfl | rfl := hd <;> rfl
    rw [Render.enclose, String.toList_ofList]
    refine ⟨_, _, rfl, fun prev => ?_⟩
    have scanned : scan d prev '\x22'
        (Text.replaceChar '\x22' ['\x22', '\x22'] name.toList ++ '\x22' :: rest) = _ :=
      scan_quotedName quote (hr.head?_ne (by decide))
    rw [String.ofList_toList] at scanned
    simpa using scanned

theorem scans_quoteString (hd : d.escapesByBackslash = false) (hr : EndsWord rest) (s : String) :
    Scans d (Render.quoteString s).toList (.string .single s) rest := by
  rw [Render.quoteString, Render.enclose, String.toList_ofList]
  refine ⟨_, _, rfl, fun prev => ?_⟩
  have scanned : scan d prev '\x27'
      (Text.replaceChar '\x27' ['\x27', '\x27'] s.toList ++ '\x27' :: rest) = _ :=
    scan_quoteString hd (hr.head?_ne (by decide))
  rw [String.ofList_toList] at scanned
  simpa using scanned

theorem exists_quoteIdent (name : String) : ∃ c cs, (Render.quoteIdent name).toList = c :: cs ∧
    (Render.startsPlain c ∨ c = '\x22') := by
  unfold Render.quoteIdent
  split
  case isTrue plain =>
    unfold Render.isPlain at plain
    split at plain
    case h_1 => cases plain
    case h_2 c cs e =>
      simp only [Bool.and_eq_true] at plain
      exact ⟨c, cs, e, .inl plain.1.1⟩
  case isFalse => exact ⟨_, _, by rw [Render.enclose, String.toList_ofList]; rfl, .inr rfl⟩

-- A point behind a name, in front of another one.
theorem cutsFrom_point (hd : d = .generic ∨ d = .postgresql) (ht : isWordToken (some t))
    (begins : ∃ c cs, cs' = c :: cs ∧ (startsWord c ∨ c = '\x22')) :
    CutsFrom d (some t) ['.'] [.symbol "."] (some (.symbol ".")) (cs' ++ rest) := by
  obtain ⟨c, cs, rfl, hc⟩ := begins
  have digit : Text.isAsciiDigit c = false := by
    obtain hc | rfl := hc
    case inl => exact isAsciiDigit_of_startsWord hc
    case inr => rfl
  apply CutsFrom.token
  have : scan d (some t) '.' (c :: (cs ++ rest)) = number d (some t) ('.' :: c :: (cs ++ rest)) := by
    obtain rfl | rfl := hd <;> rfl
  rw [List.nil_append, List.cons_append, this]
  unfold number
  split
  case h_1 e => simp_all [symbol]
  case h_2 e =>
    have underscore : c ≠ '_' := by
      rintro rfl
      exact e _ rfl
    have before : digitRun d.hasDigitSeparators Text.isAsciiDigit ('.' :: c :: (cs ++ rest)) =
        ([], '.' :: c :: (cs ++ rest)) := by
      simp [digitRun, Text.isAsciiDigit]
    have behind : digitRun d.hasDigitSeparators Text.isAsciiDigit (c :: (cs ++ rest)) =
        ([], c :: (cs ++ rest)) := by
      simp [digitRun, digit, underscore]
    have numeric : d.hasNumericNames = false := by obtain rfl | rfl := hd <;> rfl
    simp [before, behind, numeric, symbol]

end Names

end SqlLens.Sql.Lexer
