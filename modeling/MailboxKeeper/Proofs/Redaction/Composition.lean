import MailboxKeeper.Proofs.Redaction.Scan

/-!
# Redaction piece by piece

A character that separates words and ends authorities, a blank in the first place, cuts a text in
two that are redacted each on its own (`redactFrom_append_cons`): no scheme and no authority goes
on across it, and a word boundary is behind it. So a message is redacted URL by URL
(`redact_append_url`), however many there are.
-/

namespace MailboxKeeper.Redaction

open Text

variable {afterWord : Bool} {c : Char} {cs ds rest scheme authority after : List Char}

theorem isWord_of_isBlank (blank : isBlank c = true) : isWord c = false := by
  have all : ∀ n ∈ [9, 10, 11, 12, 13, 0x20, 0x85, 0xA0, 0x1680] ++ List.range' 0x2000 11
      ++ [0x2028, 0x2029, 0x202F, 0x205F, 0x3000], isWord (Char.ofNat n) = false := by
    decide +kernel
  simp only [isBlank, Bool.or_eq_true, Bool.and_eq_true, decide_eq_true_eq, beq_iff_eq] at blank
  rw [← Char.ofNat_toNat c]
  refine all _ ?_
  simp only [List.mem_append, List.mem_cons, List.mem_range'_1, List.not_mem_nil, or_false]
  omega

theorem separates_of_isBlank (blank : isBlank c = true) : Separates c := by
  refine ⟨isWord_of_isBlank blank, ?_, ?_⟩
  · rw [isAuthorityChar, blank]
    rfl
  · rintro rfl
    cases blank

theorem startsAuthority_append_cons (other : isAuthorityChar c = false) :
    startsAuthority (cs ++ c :: ds) = startsAuthority cs := by
  cases cs with
  | nil => exact other
  | cons d cs => rfl

/-- What stands behind such a character does not matter to a scheme before it. -/
theorem Separates.scheme?_append_cons (separates : Separates c) (cs ds : List Char) :
    scheme? (cs ++ c :: ds) = (scheme? cs).map fun found => (found.1, found.2 ++ c :: ds) := by
  refine Option.ext fun ⟨scheme, rest⟩ => ?_
  constructor
  · intro found
    obtain ⟨middle, before, rfl⟩ := separates.of_scheme? found
    obtain ⟨isScheme, starts, -⟩ := scheme?_eq_some_iff.1 found
    rw [startsAuthority_append_cons separates.2.1] at starts
    rw [scheme?_eq_some_iff.2 ⟨isScheme, starts, before⟩]
    rfl
  · intro found
    obtain ⟨⟨_, middle⟩, before, same⟩ := Option.map_eq_some_iff.1 found
    cases same
    obtain ⟨isScheme, starts, rfl⟩ := scheme?_eq_some_iff.1 before
    refine scheme?_eq_some_iff.2 ⟨isScheme, ?_, List.append_assoc ..⟩
    rw [startsAuthority_append_cons separates.2.1, starts]

/-- Such a character cuts a text in two that are redacted each on its own. -/
theorem redactFrom_append_cons (separates : Separates c) (afterWord : Bool) (cs ds : List Char) :
    redactFrom afterWord (cs ++ c :: ds) = redactFrom afterWord cs ++ c :: redactFrom false ds := by
  induction afterWord, cs using redaction_induction with
  | nil afterWord =>
    rw [List.nil_append, redactFrom_cons_of_not_start separates.isSchemeStart_eq_false,
      separates.1, redactFrom_nil]
    rfl
  | url cs scheme rest before ih =>
    have found : scheme? (cs ++ c :: ds) = some (scheme, rest ++ c :: ds) := by
      rw [separates.scheme?_append_cons, before]
      rfl
    have stop : ∀ d ∈ (c :: ds).head?, isAuthorityChar d = false := by
      intro d first
      cases first
      exact separates.2.1
    rw [redactFrom_of_scheme? found, redactFrom_of_scheme? before, dropWhile_append_of_stop stop,
      ih]
    simp only [List.append_assoc]
    rfl
  | plain afterWord d tail plain ih =>
    have more : afterWord = true ∨ scheme? (d :: (tail ++ c :: ds)) = none := by
      refine plain.imp_right fun none => ?_
      rw [← List.cons_append, separates.scheme?_append_cons, none]
      rfl
    rw [List.cons_append, redactFrom_cons_of_none more, redactFrom_cons_of_none plain, ih]
    rfl

/-- A URL is redacted up to where its authority ends. -/
theorem redactFrom_url (isScheme : IsScheme scheme) (solid : authority ≠ [])
    (inside : ∀ c ∈ authority, isAuthorityChar c = true)
    (ends : ∀ c ∈ after.head?, isAuthorityChar c = false) :
    redactFrom false (scheme ++ ':' :: '/' :: '/' :: (authority ++ after))
      = scheme ++ ':' :: '/' :: '/' :: (placeholder ++ redactFrom false after) := by
  have starts : startsAuthority (authority ++ after) = true := by
    cases authority with
    | nil => exact absurd rfl solid
    | cons c cs => exact inside c List.mem_cons_self
  have rest : authority.dropWhile isAuthorityChar = [] := List.dropWhile_eq_nil_iff.2 inside
  rw [redactFrom_of_scheme? (scheme?_eq_some_iff.2 ⟨isScheme, starts, rfl⟩),
    dropWhile_append_of_stop ends, rest]
  rfl

theorem redactChars_append_url (apart : ∀ c ∈ cs.getLast?, Separates c)
    (isScheme : IsScheme scheme) (solid : authority ≠ [])
    (inside : ∀ c ∈ authority, isAuthorityChar c = true)
    (ends : ∀ c ∈ after.head?, isAuthorityChar c = false) :
    redactChars (cs ++ (scheme ++ ':' :: '/' :: '/' :: (authority ++ after)))
      = redactChars cs ++ (scheme ++ ':' :: '/' :: '/' :: (placeholder ++ redactChars after)) := by
  have url := redactFrom_url isScheme solid inside ends
  unfold redactChars
  rcases List.eq_nil_or_concat cs with rfl | ⟨front, c, rfl⟩
  · rw [redactFrom_nil]
    exact url
  · rw [List.concat_eq_append] at apart ⊢
    have separates := apart c List.getLast?_concat
    rw [List.append_assoc, List.singleton_append, redactFrom_append_cons separates, url,
      redactFrom_append_cons separates, redactFrom_nil, List.append_assoc]
    rfl

/-- What redaction makes of a message that has a URL in it, behind a blank or at its beginning:
the parts of the message are redacted each on its own, and the authority becomes the
placeholder. -/
theorem redact_append_url (before scheme authority after : String)
    (apart : ∀ c ∈ before.toList.getLast?, isBlank c = true)
    (letter : ∃ c ∈ scheme.toList.head?, c.isAlpha = true)
    (chars : ∀ c ∈ scheme.toList, (c.isAlphanum || c == '+' || c == '.' || c == '-') = true)
    (solid : authority.toList ≠ [])
    (inside : ∀ c ∈ authority.toList, isAuthorityChar c = true)
    (ends : ∀ c ∈ after.toList.head?, isAuthorityChar c = false) :
    redact (before ++ scheme ++ "://" ++ authority ++ after)
      = redact before ++ scheme ++ "://[SERVER]" ++ redact after := by
  have isScheme : IsScheme scheme.toList := isScheme_of_ascii letter chars
  have parts := redactChars_append_url (fun c last => separates_of_isBlank (apart c last)) isScheme
    solid inside ends
  rw [← String.toList_inj]
  simp only [redact, String.toList_append, String.toList_ofList, List.append_assoc]
  exact parts

/-- Of a message with two URLs the last part is redacted as if the first were not there. -/
theorem redact_append_url_backup :
    redact ("tried https://svc:pw@10.0.0.5:8443/x then " ++ "HTTPS" ++ "://" ++ "backup.local"
        ++ ")!")
      = "tried https://[SERVER]/x then HTTPS://[SERVER])!" := by
  have parts := redact_append_url "tried https://svc:pw@10.0.0.5:8443/x then " "HTTPS"
    "backup.local" ")!"
    (by
      intro c last
      cases last
      rfl)
    ⟨'H', rfl, rfl⟩ (List.all_eq_true.1 (by decide +kernel)) (List.cons_ne_nil _ _)
    (List.all_eq_true.1 (by decide +kernel))
    (by
      intro c first
      cases first
      rfl)
  rw [parts]
  decide +kernel

end MailboxKeeper.Redaction
