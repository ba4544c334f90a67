import MailboxKeeper.Proofs.Text.Run
import MailboxKeeper.Redaction
import Mathlib

/-!
# How redaction scans a text

Redaction goes through a text from left to right. A scheme is recognised if it starts at a word
boundary, outside the authority of an earlier URL; whether the text ends within such a scheme
(`opens`) does not depend on what follows, and neither does what is made of the text up to there
(`exists_redactFrom_eq`). What redaction leaves alone it shows as it is (`takeWhile_redactFrom`).
-/

namespace MailboxKeeper.Redaction

open Text

variable {afterWord : Bool} {c : Char} {cs ds tail scheme rest : List Char}

/-! ## Characters -/

/-- A character that can stand in the authority of a URL: neither blank nor one of those that end
it. -/
def isUrlChar (c : Char) : Bool := !(isBlank c || c == '/' || c == '?' || c == '#')

theorem isUrlChar_of_isAuthorityChar (inside : isAuthorityChar c = true) : isUrlChar c = true := by
  simp only [isAuthorityChar, isUrlChar, Bool.not_eq_true', Bool.or_eq_false_iff] at inside ⊢
  exact inside.1.1.1.1.1.1

theorem isAuthorityChar_eq_false (stop : isUrlChar c = false) : isAuthorityChar c = false := by
  rw [← Bool.not_eq_true]
  intro inside
  rw [isUrlChar_of_isAuthorityChar inside] at stop
  cases stop

/-- The codes of the characters that a scheme is made of. -/
theorem toNat_of_isSchemeChar (inside : isSchemeChar c = true) :
    65 ≤ c.toNat ∧ c.toNat ≤ 90 ∨ 97 ≤ c.toNat ∧ c.toNat ≤ 122 ∨ c.toNat = 0x17F ∨ c.toNat = 0x212A
      ∨ 48 ≤ c.toNat ∧ c.toNat ≤ 57 ∨ c.toNat = 43 ∨ c.toNat = 46 ∨ c.toNat = 45 := by
  simp only [isSchemeChar, isSchemeStart, Char.isAlpha, Char.isUpper, Char.isLower, Char.isDigit,
    Bool.or_eq_true, Bool.and_eq_true, decide_eq_true_eq, beq_iff_eq, ge_iff_le,
    UInt32.le_iff_toNat_le] at inside
  rcases inside with ((((((capital | small) | rfl) | rfl) | digit) | rfl) | rfl) | rfl
  · exact .inl capital
  · exact .inr (.inl small)
  · decide
  · decide
  · exact .inr (.inr (.inr (.inr (.inl digit))))
  · decide
  · decide
  · decide

theorem isBlank_of_isSchemeChar (inside : isSchemeChar c = true) : isBlank c = false := by
  have codes := toNat_of_isSchemeChar inside
  simp only [isBlank, Bool.or_eq_false_iff, Bool.and_eq_false_iff, decide_eq_false_iff_not,
    beq_eq_false_iff_ne]
  omega

/-- No character of a scheme ends an authority. -/
theorem isAuthorityChar_of_isSchemeChar (inside : isSchemeChar c = true) :
    isAuthorityChar c = true := by
  have codes := toNat_of_isSchemeChar inside
  have apart (d : Char) (code : c.toNat ≠ d.toNat) : (c == d) = false :=
    beq_eq_false_iff_ne.2 fun same => code (congrArg Char.toNat same)
  rw [isAuthorityChar, isBlank_of_isSchemeChar inside, apart '/', apart '?', apart '#', apart ')',
    apart ']', apart ',', apart ';', apart '>', apart '"']
  · rfl
  all_goals
    simp only [Char.reduceToNat]
    omega

theorem isSchemeChar_of_isSchemeStart (start : isSchemeStart c = true) : isSchemeChar c = true := by
  simp only [isSchemeChar, start, Bool.true_or]

/-! ## Schemes -/

/-- Does the text begin with an authority? -/
def startsAuthority (cs : List Char) : Bool := (cs.head?.map isAuthorityChar).getD false

theorem of_afterSlashes? (found : afterSlashes? cs = some rest) :
    cs = ':' :: '/' :: '/' :: rest := by
  unfold afterSlashes? at found
  split at found
  · cases found
    rfl
  · cases found

theorem scheme?_cons_of_start (start : isSchemeStart c = true) :
    scheme? (c :: tail) = (afterSlashes? (tail.dropWhile isSchemeChar)).bind fun rest =>
      if startsAuthority rest then some (c :: tail.takeWhile isSchemeChar, rest) else none := by
  rw [scheme?, if_pos start]
  cases afterSlashes? (tail.dropWhile isSchemeChar) <;> rfl

theorem scheme?_cons_of_not_start (other : isSchemeStart c = false) :
    scheme? (c :: tail) = none := by
  rw [scheme?, if_neg (by rw [other]; exact Bool.false_ne_true)]

/-- Where a scheme is found, the text consists of it, `://` and what follows. -/
theorem of_scheme? (found : scheme? cs = some (scheme, rest)) :
    cs = scheme ++ ':' :: '/' :: '/' :: rest ∧ (∀ c ∈ scheme, isSchemeChar c = true) ∧
      startsAuthority rest = true := by
  cases cs with
  | nil => cases found
  | cons c tail =>
    cases start : isSchemeStart c with
    | false =>
      rw [scheme?_cons_of_not_start start] at found
      cases found
    | true =>
      rw [scheme?_cons_of_start start, Option.bind_eq_some_iff] at found
      obtain ⟨rest', slashes, found⟩ := found
      split at found
      · rename_i starts
        cases found
        refine ⟨?_, ?_, starts⟩
        · rw [List.cons_append, ← of_afterSlashes? slashes, List.takeWhile_append_dropWhile]
        · refine List.forall_mem_cons.2 ⟨isSchemeChar_of_isSchemeStart start, ?_⟩
          exact fun d member => List.mem_takeWhile_imp member
      · cases found

/-- A scheme that reaches to the end of a text is found if an authority follows. -/
theorem scheme?_of_all (start : isSchemeStart c = true) (all : tail.all isSchemeChar = true)
    (rest : List Char) :
    scheme? (c :: tail ++ ':' :: '/' :: '/' :: rest)
      = if startsAuthority rest then some (c :: tail, rest) else none := by
  rw [List.all_eq_true] at all
  rw [List.cons_append, scheme?_cons_of_start start, List.dropWhile_append_of_pos all,
    List.takeWhile_append_of_pos all]
  show (if startsAuthority rest then some (c :: (tail ++ []), rest) else none) = _
  rw [List.append_nil]

/-- The text of a scheme, however it is written. -/
structure IsScheme (cs : List Char) : Prop where
  start : ∃ c ∈ cs.head?, isSchemeStart c = true
  chars : ∀ c ∈ cs, isSchemeChar c = true

/-- A scheme as it is usually written, in ASCII. -/
theorem isScheme_of_ascii (letter : ∃ c ∈ cs.head?, c.isAlpha = true)
    (chars : ∀ c ∈ cs, (c.isAlphanum || c == '+' || c == '.' || c == '-') = true) :
    IsScheme cs where
  start := by
    obtain ⟨c, first, alpha⟩ := letter
    exact ⟨c, first, by rw [isSchemeStart, alpha, Bool.true_or, Bool.true_or]⟩
  chars := by
    intro c member
    have inside := chars c member
    simp only [Char.isAlphanum, Bool.or_eq_true] at inside
    rw [isSchemeChar, isSchemeStart]
    rcases inside with (((alpha | digit) | plus) | dot) | dash
    all_goals simp only [*, Bool.true_or, Bool.or_true]

/-- A scheme is found where one stands before `://` and an authority. -/
theorem scheme?_eq_some_iff : scheme? cs = some (scheme, rest) ↔
    IsScheme scheme ∧ startsAuthority rest = true ∧ cs = scheme ++ ':' :: '/' :: '/' :: rest := by
  constructor
  · intro found
    obtain ⟨same, chars, starts⟩ := of_scheme? found
    refine ⟨⟨?_, chars⟩, starts, same⟩
    cases cs with
    | nil => cases found
    | cons c tail =>
      cases start : isSchemeStart c with
      | false =>
        rw [scheme?_cons_of_not_start start] at found
        cases found
      | true =>
        cases scheme with
        | nil =>
          cases same
          cases start
        | cons d scheme =>
          cases same
          exact ⟨c, rfl, start⟩
  · rintro ⟨⟨⟨c, first, start⟩, chars⟩, starts, rfl⟩
    obtain ⟨tail, rfl⟩ := List.head?_eq_some_iff.1 first
    have all : tail.all isSchemeChar = true :=
      List.all_eq_true.2 fun d member => chars d (List.mem_cons_of_mem c member)
    rw [scheme?_of_all start all, if_pos starts]

/-- What follows the authority of a URL is the end of the text. -/
theorem suffix_of_scheme? (found : scheme? cs = some (scheme, rest)) :
    rest.dropWhile isAuthorityChar <:+ cs := by
  rw [(of_scheme? found).1]
  exact (List.dropWhile_suffix _).trans ⟨scheme ++ "://".toList, by rw [List.append_assoc]; rfl⟩

/-- The text is empty, or its last character can stand in a scheme. -/
def EndsInScheme (cs : List Char) : Prop := ∀ c ∈ cs.getLast?, isSchemeChar c = true

theorem EndsInScheme.of_suffix (ends : EndsInScheme cs) (suffix : ds <:+ cs) : EndsInScheme ds := by
  obtain ⟨before, rfl⟩ := suffix
  intro c last
  refine ends c ?_
  rw [List.getLast?_append, Option.mem_def.1 last]
  rfl

theorem afterSlashes?_append (ends : EndsInScheme cs) (some : cs ≠ []) (more : List Char) :
    afterSlashes? (cs ++ more) = (afterSlashes? cs).map (· ++ more) := by
  rcases cs with _ | ⟨c, _ | ⟨d, _ | ⟨e, cs⟩⟩⟩
  · exact absurd rfl some
  · have other : c ≠ ':' := by
      rintro rfl
      cases ends ':' rfl
    simp [afterSlashes?, other]
  · have other : d ≠ '/' := by
      rintro rfl
      cases ends '/' rfl
    simp [afterSlashes?, other]
  · cases found : afterSlashes? (c :: d :: e :: cs) with
    | some rest =>
      cases of_afterSlashes? found
      rfl
    | none =>
      cases found' : afterSlashes? (c :: d :: e :: cs ++ more) with
      | none => rfl
      | some rest =>
        cases of_afterSlashes? found'
        cases found

/-- What follows does not matter to a scheme that ends before. -/
theorem scheme?_append (ends : EndsInScheme (c :: tail))
    (closed : ¬(isSchemeStart c && tail.all isSchemeChar) = true) (more : List Char) :
    scheme? (c :: tail ++ more) = (scheme? (c :: tail)).map fun found =>
      (found.1, found.2 ++ more) := by
  cases start : isSchemeStart c with
  | false =>
    rw [List.cons_append, scheme?_cons_of_not_start start, scheme?_cons_of_not_start start]
    rfl
  | true =>
    rw [start, Bool.true_and, Bool.not_eq_true] at closed
    have left : tail.dropWhile isSchemeChar ≠ [] := by
      rw [Ne, List.dropWhile_eq_nil_iff, ← List.all_eq_true, closed]
      exact Bool.false_ne_true
    have last : EndsInScheme (tail.dropWhile isSchemeChar) :=
      ends.of_suffix ((List.dropWhile_suffix _).trans (List.suffix_cons _ _))
    have taken : (tail ++ more).takeWhile isSchemeChar = tail.takeWhile isSchemeChar := by
      rw [List.takeWhile_append, if_neg]
      intro whole
      have all := (List.takeWhile_prefix isSchemeChar).eq_of_length whole
      rw [List.takeWhile_eq_self_iff, ← List.all_eq_true, closed] at all
      cases all
    rw [List.cons_append, scheme?_cons_of_start start, scheme?_cons_of_start start, taken,
      List.dropWhile_append, if_neg (by simpa using left),
      afterSlashes?_append last left]
    cases found : afterSlashes? (tail.dropWhile isSchemeChar) with
    | none => rfl
    | some rest =>
      rw [of_afterSlashes? found] at last
      cases rest with
      | nil => cases last '/' rfl
      | cons d rest =>
        show (if startsAuthority (d :: rest) then _ else _) = Option.map _ (if _ then _ else _)
        split <;> rfl

/-! ## Steps of a redaction -/

theorem redactFrom_nil (afterWord : Bool) : redactFrom afterWord [] = [] := by
  rw [redactFrom]

theorem redactFrom_of_scheme? (found : scheme? cs = some (scheme, rest)) :
    redactFrom false cs = scheme ++ ':' :: '/' :: '/' ::
      (placeholder ++ redactFrom false (rest.dropWhile isAuthorityChar)) := by
  cases cs with
  | nil => cases found
  | cons c tail =>
    rw [redactFrom]
    split
    · rename_i named
      rw [if_neg Bool.false_ne_true, found] at named
      cases named
      simp only [List.append_assoc]
      rfl
    · rename_i named
      rw [if_neg Bool.false_ne_true, found] at named
      cases named

theorem redactFrom_cons_of_none (plain : afterWord = true ∨ scheme? (c :: tail) = none) :
    redactFrom afterWord (c :: tail) = c :: redactFrom (isWord c) tail := by
  rw [redactFrom]
  split
  · rename_i named
    rcases plain with rfl | none
    · cases named
    · rw [none, ite_self] at named
      cases named
  · rfl

theorem redactFrom_cons_of_not_start (other : isSchemeStart c = false) :
    redactFrom afterWord (c :: tail) = c :: redactFrom (isWord c) tail :=
  redactFrom_cons_of_none (.inr (scheme?_cons_of_not_start other))

/-- A text is redacted URL by URL and, where there is none, character by character. -/
theorem redaction_induction {motive : Bool → List Char → Prop}
    (nil : ∀ afterWord, motive afterWord [])
    (url : ∀ cs scheme rest, scheme? cs = some (scheme, rest) →
      motive false (rest.dropWhile isAuthorityChar) → motive false cs)
    (plain : ∀ afterWord c tail, afterWord = true ∨ scheme? (c :: tail) = none →
      motive (isWord c) tail → motive afterWord (c :: tail))
    (afterWord : Bool) (cs : List Char) : motive afterWord cs := by
  fun_induction redactFrom afterWord cs with
  | case1 afterWord => exact nil afterWord
  | case2 afterWord c tail scheme rest found ih =>
    cases afterWord with
    | false => exact url _ scheme rest found ih
    | true => cases found
  | case3 afterWord c tail none ih =>
    refine plain afterWord c tail ?_ ih
    cases afterWord with
    | false => exact .inr none
    | true => exact .inl rfl

theorem redactFrom_slashes (afterWord : Bool) (rest : List Char) :
    redactFrom afterWord ('/' :: '/' :: rest) = '/' :: '/' :: redactFrom false rest := by
  rw [redactFrom_cons_of_not_start rfl, redactFrom_cons_of_not_start rfl]
  rfl

theorem redactFrom_colon (afterWord : Bool) (rest : List Char) :
    redactFrom afterWord (':' :: '/' :: '/' :: rest)
      = ':' :: '/' :: '/' :: redactFrom false rest := by
  rw [redactFrom_cons_of_not_start rfl, redactFrom_slashes]

/-- Without an authority a scheme is nothing to redact. -/
theorem redactFrom_of_not_startsAuthority (chars : ∀ d ∈ cs, isSchemeChar d = true)
    (none : startsAuthority rest = false) (afterWord : Bool) :
    redactFrom afterWord (cs ++ ':' :: '/' :: '/' :: rest)
      = cs ++ ':' :: '/' :: '/' :: redactFrom false rest := by
  induction cs generalizing afterWord with
  | nil => exact redactFrom_colon afterWord rest
  | cons c cs ih =>
    have ⟨_, chars⟩ := List.forall_mem_cons.1 chars
    have plain : scheme? (c :: (cs ++ ':' :: '/' :: '/' :: rest)) = .none := by
      cases start : isSchemeStart c with
      | false => exact scheme?_cons_of_not_start start
      | true =>
        have found := scheme?_of_all start (List.all_eq_true.2 chars) rest
        rw [none, if_neg Bool.false_ne_true] at found
        exact found
    rw [List.cons_append, redactFrom_cons_of_none (.inr plain), ih chars, List.cons_append]

/-! ## What is shown -/

/-- Up to where an authority could end, a text is shown as it is. -/
theorem takeWhile_redactFrom (afterWord : Bool) (cs : List Char) :
    (redactFrom afterWord cs).takeWhile isUrlChar = cs.takeWhile isUrlChar := by
  induction cs generalizing afterWord with
  | nil => rw [redactFrom_nil]
  | cons c tail ih =>
    by_cases plain : afterWord = true ∨ scheme? (c :: tail) = none
    · rw [redactFrom_cons_of_none plain, List.takeWhile_cons, List.takeWhile_cons, ih]
    · rw [not_or, Bool.not_eq_true] at plain
      obtain ⟨rfl, some⟩ := plain
      obtain ⟨⟨scheme, rest⟩, found⟩ := Option.ne_none_iff_exists'.1 some
      obtain ⟨same, chars, -⟩ := of_scheme? found
      have inside : ∀ d ∈ scheme, isUrlChar d = true := fun d member =>
        isUrlChar_of_isAuthorityChar (isAuthorityChar_of_isSchemeChar (chars d member))
      rw [redactFrom_of_scheme? found, same, List.takeWhile_append_of_pos inside,
        List.takeWhile_append_of_pos inside]
      rfl

/-- Does the text end within a scheme that is recognised? It is if it starts at a word boundary and
outside the authority of an earlier URL. -/
def opens (afterWord : Bool) (cs : List Char) : Bool :=
  match cs with
  | [] => false
  | c :: tail =>
    if afterWord then opens (isWord c) tail
    else if isSchemeStart c && tail.all isSchemeChar then true
    else
      match _h : scheme? (c :: tail) with
      | some (_, rest) => opens false (rest.dropWhile isAuthorityChar)
      | none => opens (isWord c) tail
termination_by cs.length
decreasing_by
  · simp
  · have := length_of_scheme? _h
    have := length_dropWhile_le isAuthorityChar rest
    omega
  · simp

/-- What comes of a text before which `://` stands, with a scheme that is recognised or not. -/
def redactAfter (recognised : Bool) (rest : List Char) : List Char :=
  if recognised && startsAuthority rest then
    placeholder ++ redactFrom false (rest.dropWhile isAuthorityChar)
  else redactFrom false rest

/-- What is made of the text up to a scheme does not depend on what follows. -/
theorem exists_redactFrom_eq (afterWord : Bool) (cs : List Char) (ends : EndsInScheme cs) :
    ∃ shown, ∀ rest, redactFrom afterWord (cs ++ ':' :: '/' :: '/' :: rest)
      = shown ++ redactAfter (opens afterWord cs) rest := by
  fun_induction opens afterWord cs with
  | case1 afterWord =>
    exact ⟨"://".toList, fun rest => redactFrom_colon afterWord rest⟩
  | case2 c tail ih =>
    obtain ⟨shown, eq⟩ := ih (ends.of_suffix (List.suffix_cons c tail))
    refine ⟨c :: shown, fun rest => ?_⟩
    rw [List.cons_append, redactFrom_cons_of_none (.inl rfl), eq]
    rfl
  | case3 afterWord c tail outside whole =>
    rw [Bool.not_eq_true] at outside
    rw [Bool.and_eq_true] at whole
    obtain ⟨start, all⟩ := whole
    refine ⟨c :: tail ++ "://".toList, fun rest => ?_⟩
    subst outside
    have found := scheme?_of_all start all rest
    rw [redactAfter, Bool.true_and]
    split
    · rename_i starts
      rw [if_pos starts] at found
      rw [redactFrom_of_scheme? found, List.append_assoc]
      rfl
    · rename_i none
      rw [Bool.not_eq_true] at none
      have chars : ∀ d ∈ c :: tail, isSchemeChar d = true :=
        List.forall_mem_cons.2 ⟨isSchemeChar_of_isSchemeStart start, List.all_eq_true.1 all⟩
      rw [redactFrom_of_not_startsAuthority chars none, List.append_assoc]
      rfl
  | case4 afterWord c tail outside closed scheme after found ih =>
    rw [Bool.not_eq_true] at outside
    subst outside
    have found' (rest : List Char) : scheme? (c :: tail ++ ':' :: '/' :: '/' :: rest)
        = some (scheme, after ++ ':' :: '/' :: '/' :: rest) := by
      rw [scheme?_append ends closed, found]
      rfl
    -- The authority of the earlier URL goes on up to the slashes, or ends within the text.
    by_cases swallowed : after.dropWhile isAuthorityChar = []
    · refine ⟨scheme ++ "://".toList ++ placeholder ++ "//".toList, fun rest => ?_⟩
      rw [redactFrom_of_scheme? (found' rest), List.dropWhile_append,
        if_pos (by rw [swallowed]; rfl), swallowed, opens]
      show scheme ++ ':' :: '/' :: '/' :: (placeholder ++ redactFrom false ('/' :: '/' :: rest)) = _
      rw [redactFrom_slashes]
      simp only [List.append_assoc]
      rfl
    · obtain ⟨shown, eq⟩ := ih (ends.of_suffix (suffix_of_scheme? found))
      refine ⟨scheme ++ "://".toList ++ placeholder ++ shown, fun rest => ?_⟩
      rw [redactFrom_of_scheme? (found' rest), List.dropWhile_append,
        if_neg (by simpa using swallowed), eq]
      simp only [List.append_assoc]
      rfl
  | case5 afterWord c tail outside closed none ih =>
    obtain ⟨shown, eq⟩ := ih (ends.of_suffix (List.suffix_cons c tail))
    refine ⟨c :: shown, fun rest => ?_⟩
    have plain : scheme? (c :: (tail ++ ':' :: '/' :: '/' :: rest)) = .none := by
      have apart := scheme?_append ends closed (':' :: '/' :: '/' :: rest)
      rw [none] at apart
      exact apart
    rw [List.cons_append, redactFrom_cons_of_none (.inr plain), eq]
    rfl

/-! ## Schemes that are recognised -/

/-- A character that ends words and authorities, but no URL's beginning: a blank, say, or a closing
bracket. -/
def Separates (c : Char) : Prop := isWord c = false ∧ isAuthorityChar c = false ∧ c ≠ '/'

theorem Separates.isSchemeChar_eq_false (separates : Separates c) : isSchemeChar c = false := by
  rw [← Bool.not_eq_true]
  intro inside
  have := isAuthorityChar_of_isSchemeChar inside
  rw [separates.2.1] at this
  cases this

theorem Separates.isSchemeStart_eq_false (separates : Separates c) : isSchemeStart c = false := by
  rw [← Bool.not_eq_true]
  intro start
  have := isSchemeChar_of_isSchemeStart start
  rw [separates.isSchemeChar_eq_false] at this
  cases this

/-- After such a character a URL that was found before it goes on at most up to it. -/
theorem Separates.of_scheme? (separates : Separates c)
    (found : scheme? (cs ++ c :: ds) = some (scheme, rest)) :
    ∃ middle, cs = scheme ++ ':' :: '/' :: '/' :: middle ∧ rest = middle ++ c :: ds := by
  obtain ⟨same, chars, -⟩ := Redaction.of_scheme? found
  have same : cs ++ c :: ds = (scheme ++ "://".toList) ++ rest := by
    rw [same, List.append_assoc]
    rfl
  rcases List.append_eq_append_iff.1 same with ⟨middle, before, after⟩ | ⟨middle, before, after⟩
  · cases middle with
    | nil =>
      refine ⟨[], ?_, after.symm⟩
      rw [← List.append_nil cs, ← before]
      rfl
    | cons d middle =>
      cases after
      have member : c ∈ scheme ++ "://".toList := by
        rw [before]
        exact List.mem_append_right _ List.mem_cons_self
      rcases List.mem_append.1 member with inside | slashes
      · have := chars c inside
        rw [separates.isSchemeChar_eq_false] at this
        cases this
      · obtain ⟨-, other, apart⟩ := separates
        have : c = ':' ∨ c = '/' := by simpa using slashes
        rcases this with rfl | rfl
        · cases other
        · exact absurd rfl apart
  · refine ⟨middle, ?_, after⟩
    rw [before, List.append_assoc]
    rfl

/-- A scheme is recognised that stands right after a character that separates it from the rest. -/
theorem opens_append_cons (separates : Separates c) (opened : opens false ds = true)
    (afterWord : Bool) : ∀ cs : List Char, opens afterWord (cs ++ c :: ds) = true
  | [] => by
    rw [List.nil_append, opens]
    have next : opens (isWord c) ds = true := by rw [separates.1, opened]
    have none : scheme? (c :: ds) = .none :=
      scheme?_cons_of_not_start separates.isSchemeStart_eq_false
    split
    · exact next
    · split
      · rfl
      · split
        · rename_i found
          rw [none] at found
          cases found
        · exact next
  | d :: cs => by
    rw [List.cons_append, opens]
    split
    · exact opens_append_cons separates opened _ cs
    · split
      · rfl
      · split
        · rename_i scheme rest found
          rw [← List.cons_append] at found
          obtain ⟨middle, before, rfl⟩ := separates.of_scheme? found
          have shorter : (middle.dropWhile isAuthorityChar).length < (d :: cs).length := by
            have := length_dropWhile_le isAuthorityChar middle
            simp only [before, List.length_append, List.length_cons]
            omega
          have stop : ∀ e ∈ (c :: ds).head?, isAuthorityChar e = false := by
            intro e first
            cases first
            exact separates.2.1
          rw [dropWhile_append_of_stop stop]
          exact opens_append_cons separates opened false (middle.dropWhile isAuthorityChar)
        · exact opens_append_cons separates opened _ cs
termination_by cs => cs.length
decreasing_by
  all_goals first
    | exact shorter
    | exact Nat.lt_succ_self _

end MailboxKeeper.Redaction
