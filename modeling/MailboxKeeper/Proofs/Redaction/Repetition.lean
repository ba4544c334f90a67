import MailboxKeeper.Proofs.Redaction.Scan

/-!
# Redaction of what is redacted already

The closing bracket of the placeholder ends an authority. So when a redacted message is redacted
again, the same schemes are recognised, and of each placeholder all but that bracket is replaced:
every pass leaves one bracket more behind each (`count_redactFrom_redactFrom`). A message settles
only if it names no server at all (`redactFrom_eq_self_iff`).
-/

namespace MailboxKeeper.Redaction

open Text

variable {afterWord : Bool} {c : Char} {cs ds tail scheme rest shown : List Char}

/-! ## The same schemes are recognised -/

theorem head?_redactFrom (afterWord : Bool) (cs : List Char) :
    (redactFrom afterWord cs).head? = cs.head? := by
  induction afterWord, cs using redaction_induction with
  | nil afterWord => rw [redactFrom_nil]
  | url cs scheme rest found _ =>
    obtain ⟨⟨⟨c, first, _⟩, _⟩, _, rfl⟩ := scheme?_eq_some_iff.1 found
    obtain ⟨tail, rfl⟩ := List.head?_eq_some_iff.1 first
    rw [redactFrom_of_scheme? found]
    rfl
  | plain afterWord c tail plain _ =>
    rw [redactFrom_cons_of_none plain]
    rfl

theorem startsAuthority_redactFrom (afterWord : Bool) (cs : List Char) :
    startsAuthority (redactFrom afterWord cs) = startsAuthority cs := by
  rw [startsAuthority, head?_redactFrom]
  rfl

/-- A text up to the colon behind its scheme. -/
theorem eq_of_append_colon (chars : ∀ c ∈ cs, isSchemeChar c = true)
    (chars' : ∀ c ∈ ds, isSchemeChar c = true) (same : cs ++ ':' :: tail = ds ++ ':' :: rest) :
    cs = ds := by
  have colon (more : List Char) : ∀ c ∈ (':' :: more).head?, isSchemeChar c = false := by
    intro c first
    cases first
    rfl
  have same := congrArg (List.takeWhile isSchemeChar) same
  rw [takeWhile_append_of_stop chars (colon tail), takeWhile_append_of_stop chars' (colon rest)]
    at same
  exact same

/-- What is left behind a character that starts no scheme. -/
theorem of_redactFrom_eq_cons (other : isSchemeStart c = false)
    (same : redactFrom afterWord cs = c :: ds) :
    ∃ tail, cs = c :: tail ∧ redactFrom (isWord c) tail = ds := by
  have first := head?_redactFrom afterWord cs
  rw [same] at first
  obtain ⟨tail, rfl⟩ := List.head?_eq_some_iff.1 first.symm
  rw [redactFrom_cons_of_not_start other] at same
  exact ⟨tail, rfl, (List.cons.inj same).2⟩

/-- An authority that is seen behind a scheme after redaction was there before. -/
theorem exists_of_redactFrom_eq (chars : ∀ c ∈ scheme, isSchemeChar c = true)
    (starts : startsAuthority shown = true)
    (same : redactFrom afterWord cs = scheme ++ ':' :: '/' :: '/' :: shown) :
    ∃ rest, startsAuthority rest = true ∧ cs = scheme ++ ':' :: '/' :: '/' :: rest := by
  induction scheme generalizing afterWord cs with
  | nil =>
    obtain ⟨_, rfl, slashes⟩ := of_redactFrom_eq_cons rfl same
    obtain ⟨_, rfl, slash⟩ := of_redactFrom_eq_cons rfl slashes
    obtain ⟨rest, rfl, left⟩ := of_redactFrom_eq_cons rfl slash
    rw [← left, startsAuthority_redactFrom] at starts
    exact ⟨rest, starts, rfl⟩
  | cons d scheme ih =>
    have first := head?_redactFrom afterWord cs
    rw [same] at first
    obtain ⟨tail, rfl⟩ := List.head?_eq_some_iff.1 first.symm
    by_cases plain : afterWord = true ∨ scheme? (d :: tail) = none
    · rw [redactFrom_cons_of_none plain] at same
      obtain ⟨rest, starts, rfl⟩ := ih (List.forall_mem_cons.1 chars).2 (List.cons.inj same).2
      exact ⟨rest, starts, rfl⟩
    · rw [not_or, Bool.not_eq_true] at plain
      obtain ⟨rfl, named⟩ := plain
      obtain ⟨⟨scheme', rest⟩, found⟩ := Option.ne_none_iff_exists'.1 named
      obtain ⟨isScheme, starts, whole⟩ := scheme?_eq_some_iff.1 found
      rw [redactFrom_of_scheme? found] at same
      rw [whole, eq_of_append_colon isScheme.chars chars same]
      exact ⟨rest, starts, rfl⟩

/-- Redaction uncovers no scheme. -/
theorem scheme?_cons_redactFrom (none : scheme? (c :: tail) = none) (afterWord : Bool) :
    scheme? (c :: redactFrom afterWord tail) = .none := by
  rw [Option.eq_none_iff_forall_ne_some]
  rintro ⟨scheme, shown⟩ found
  obtain ⟨isScheme, starts, same⟩ := scheme?_eq_some_iff.1 found
  obtain ⟨_, first, _⟩ := isScheme.start
  obtain ⟨scheme, rfl⟩ := List.head?_eq_some_iff.1 first
  obtain ⟨rfl, left⟩ := List.cons.inj same
  obtain ⟨rest, starts, rfl⟩ :=
    exists_of_redactFrom_eq (List.forall_mem_cons.1 isScheme.chars).2 starts left
  have found : scheme? (c :: (scheme ++ ':' :: '/' :: '/' :: rest)) = some (c :: scheme, rest) :=
    scheme?_eq_some_iff.2 ⟨isScheme, starts, rfl⟩
  rw [none] at found
  cases found

/-! ## Brackets -/

/-- The authority that is replaced has no bracket in it. -/
theorem count_dropWhile (rest : List Char) :
    (rest.dropWhile isAuthorityChar).count ']' = rest.count ']' := by
  have none : (rest.takeWhile isAuthorityChar).count ']' = 0 := by
    rw [List.count_eq_zero]
    intro member
    cases List.mem_takeWhile_imp member
  have parts := congrArg (List.count ']') (List.takeWhile_append_dropWhile (p := isAuthorityChar)
    (l := rest))
  rw [List.count_append, none, Nat.zero_add] at parts
  exact parts

theorem count_url (scheme rest : List Char) :
    (scheme ++ ':' :: '/' :: '/' :: rest).count ']' = scheme.count ']' + rest.count ']' := by
  rw [List.count_append, List.count_cons_of_ne (by decide), List.count_cons_of_ne (by decide),
    List.count_cons_of_ne (by decide)]

theorem count_placeholder : placeholder.count ']' = 1 := rfl

theorem count_redacted (scheme rest : List Char) :
    (scheme ++ ':' :: '/' :: '/' :: (placeholder ++ rest)).count ']'
      = scheme.count ']' + (rest.count ']' + 1) := by
  rw [count_url, List.count_append, count_placeholder, Nat.add_comm 1]

/-- The placeholder is taken for an authority up to its last character. -/
theorem redactFrom_redacted (isScheme : IsScheme scheme) (rest : List Char) :
    redactFrom false (scheme ++ ':' :: '/' :: '/' :: (placeholder ++ rest))
      = scheme ++ ':' :: '/' :: '/' :: (placeholder ++ ']' :: redactFrom false rest) := by
  have found : scheme? (scheme ++ ':' :: '/' :: '/' :: (placeholder ++ rest))
      = some (scheme, placeholder ++ rest) := scheme?_eq_some_iff.2 ⟨isScheme, rfl, rfl⟩
  have left : (placeholder ++ rest).dropWhile isAuthorityChar = ']' :: rest := rfl
  rw [redactFrom_of_scheme? found, left, redactFrom_cons_of_not_start rfl]
  rfl

/-- A second pass adds as many brackets as the first. -/
theorem count_redactFrom_redactFrom (afterWord : Bool) (cs : List Char) :
    (redactFrom afterWord (redactFrom afterWord cs)).count ']' + cs.count ']'
      = 2 * (redactFrom afterWord cs).count ']' := by
  induction afterWord, cs using redaction_induction with
  | nil afterWord => rw [redactFrom_nil, redactFrom_nil]; rfl
  | url cs scheme rest found ih =>
    obtain ⟨isScheme, -, whole⟩ := scheme?_eq_some_iff.1 found
    rw [count_dropWhile] at ih
    rw [redactFrom_of_scheme? found, redactFrom_redacted isScheme, count_redacted, count_redacted,
      List.count_cons_self, whole, count_url]
    omega
  | plain afterWord c tail plain ih =>
    have again := plain.imp_right fun none => scheme?_cons_redactFrom none (isWord c)
    rw [redactFrom_cons_of_none plain, redactFrom_cons_of_none again]
    simp only [List.count_cons]
    omega

/-- No bracket is lost. -/
theorem count_le_redactFrom (afterWord : Bool) (cs : List Char) :
    cs.count ']' ≤ (redactFrom afterWord cs).count ']' := by
  induction afterWord, cs using redaction_induction with
  | nil afterWord => rw [redactFrom_nil]
  | url cs scheme rest found ih =>
    obtain ⟨-, -, whole⟩ := scheme?_eq_some_iff.1 found
    rw [count_dropWhile] at ih
    rw [redactFrom_of_scheme? found, count_redacted, whole, count_url]
    omega
  | plain afterWord c tail plain ih =>
    rw [redactFrom_cons_of_none plain]
    simp only [List.count_cons]
    omega

/-! ## Messages that name a server -/

/-- A scheme that is recognised stands before an authority. -/
def NamesServer (afterWord : Bool) (cs : List Char) : Prop :=
  ∃ before rest, cs = before ++ ':' :: '/' :: '/' :: rest ∧ opens afterWord before = true ∧
    startsAuthority rest = true

theorem getLast?_of_suffix (suffix : ds <:+ cs) (last : ds.getLast? = some c) :
    cs.getLast? = some c := by
  obtain ⟨before, rfl⟩ := suffix
  rw [List.getLast?_append, last]
  rfl

/-- A text within whose scheme it ends has a last character, and that is one of the scheme. -/
theorem exists_getLast?_of_opens (opened : opens afterWord cs = true) :
    ∃ c, cs.getLast? = some c ∧ isSchemeChar c = true := by
  fun_induction opens afterWord cs with
  | case1 afterWord => cases opened
  | case2 c tail ih | case5 afterWord c tail outside closed none ih =>
    obtain ⟨d, last, inside⟩ := ih opened
    exact ⟨d, getLast?_of_suffix (List.suffix_cons c tail) last, inside⟩
  | case3 afterWord c tail outside whole =>
    rw [Bool.and_eq_true, List.all_eq_true] at whole
    have chars : ∀ d ∈ c :: tail, isSchemeChar d = true :=
      List.forall_mem_cons.2 ⟨isSchemeChar_of_isSchemeStart whole.1, whole.2⟩
    have last := List.getLast?_eq_some_getLast (List.cons_ne_nil c tail)
    exact ⟨_, last, chars _ (List.getLast_mem _)⟩
  | case4 afterWord c tail outside closed scheme after found ih =>
    obtain ⟨d, last, inside⟩ := ih opened
    exact ⟨d, getLast?_of_suffix (suffix_of_scheme? found) last, inside⟩

theorem endsInScheme_of_getLast? (last : cs.getLast? = some c) (inside : isSchemeChar c = true) :
    EndsInScheme cs := by
  intro d last'
  rw [last] at last'
  cases last'
  exact inside

theorem endsInScheme_of_opens (opened : opens afterWord cs = true) : EndsInScheme cs := by
  obtain ⟨c, last, inside⟩ := exists_getLast?_of_opens opened
  exact endsInScheme_of_getLast? last inside

theorem opens_of_isScheme (isScheme : IsScheme cs) : opens false cs = true := by
  obtain ⟨c, first, start⟩ := isScheme.start
  obtain ⟨tail, rfl⟩ := List.head?_eq_some_iff.1 first
  have all : tail.all isSchemeChar = true :=
    List.all_eq_true.2 (List.forall_mem_cons.1 isScheme.chars).2
  rw [opens, if_neg Bool.false_ne_true, if_pos (by rw [start, all]; rfl)]

/-- A scheme that is recognised is so from any place before it where no URL begins. -/
theorem opens_cons (opened : opens (isWord c) ds = true)
    (plain : afterWord = true ∨ scheme? (c :: (ds ++ ':' :: '/' :: '/' :: rest)) = none) :
    opens afterWord (c :: ds) = true := by
  rw [opens]
  split
  · exact opened
  · rename_i outside
    split
    · rfl
    · rename_i closed
      split
      · rename_i found
        obtain ⟨d, last, inside⟩ := exists_getLast?_of_opens opened
        have ends : EndsInScheme (c :: ds) :=
          endsInScheme_of_getLast? (getLast?_of_suffix (List.suffix_cons c ds) last) inside
        have more := scheme?_append ends closed (':' :: '/' :: '/' :: rest)
        rw [found] at more
        rcases plain with word | none
        · exact absurd word outside
        · rw [List.cons_append, none] at more
          cases more
      · exact opened

/-- Before the authority and behind it no bracket is lost, and the placeholder has one. -/
theorem count_lt_redactFrom (named : NamesServer afterWord cs) :
    cs.count ']' < (redactFrom afterWord cs).count ']' := by
  obtain ⟨before, rest, rfl, opened, starts⟩ := named
  obtain ⟨shown, eq⟩ := exists_redactFrom_eq afterWord before (endsInScheme_of_opens opened)
  have kept : before.count ']' ≤ shown.count ']' := by
    have grows := count_le_redactFrom afterWord (before ++ ':' :: '/' :: '/' :: [])
    have left : redactAfter (opens afterWord before) [] = [] := by
      rw [redactAfter, if_neg (by rw [opened]; exact Bool.false_ne_true), redactFrom_nil]
    rw [eq, left, List.append_nil, count_url] at grows
    exact Nat.le_trans (Nat.le_add_right _ _) grows
  have followed := count_le_redactFrom false (rest.dropWhile isAuthorityChar)
  rw [count_dropWhile] at followed
  rw [eq, redactAfter, opened, starts, Bool.and_self, if_pos rfl, count_url, List.count_append,
    List.count_append, count_placeholder]
  omega

theorem redactFrom_eq_self_iff : redactFrom afterWord cs = cs ↔ ¬NamesServer afterWord cs := by
  constructor
  · intro same named
    have more := count_lt_redactFrom named
    rw [same] at more
    exact Nat.lt_irrefl _ more
  · intro none
    induction afterWord, cs using redaction_induction with
    | nil afterWord => exact redactFrom_nil afterWord
    | url cs scheme rest found _ =>
      obtain ⟨isScheme, starts, whole⟩ := scheme?_eq_some_iff.1 found
      exact absurd ⟨scheme, rest, whole, opens_of_isScheme isScheme, starts⟩ none
    | plain afterWord c tail plain ih =>
      rw [redactFrom_cons_of_none plain, ih]
      rintro ⟨before, rest, rfl, opened, starts⟩
      exact none ⟨c :: before, rest, rfl, opens_cons opened plain, starts⟩

/-- A second redaction leaves a redacted message as it is exactly if there was nothing to redact:
if no scheme that is recognised stands before an authority. -/
theorem redact_redact_eq_iff (message : String) :
    redact (redact message) = redact message ↔ ¬NamesServer false message.toList := by
  simp only [redact, redactChars, String.toList_ofList, String.ofList_inj]
  constructor
  · intro settled named
    have more := count_lt_redactFrom named
    have counts := count_redactFrom_redactFrom false message.toList
    rw [settled] at counts
    omega
  · intro none
    have same := redactFrom_eq_self_iff.2 none
    rw [same, same]

/-- The bracket behind the placeholder is kept, and another one comes before it. -/
theorem redact_redact_host :
    redact "http://host/x" = "http://[SERVER]/x" ∧
      redact (redact "http://host/x") = "http://[SERVER]]/x" ∧
      redact (redact "http://host/x") ≠ redact "http://host/x" := by
  decide +kernel

end MailboxKeeper.Redaction
