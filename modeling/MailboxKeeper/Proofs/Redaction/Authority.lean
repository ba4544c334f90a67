import MailboxKeeper.Proofs.Redaction.Scan

/-!
# What redaction hides of an authority

An authority is hidden exactly as far as it consists of the characters that redaction takes for one,
and only if its scheme is recognised. What comes after a closing character is shown, so an address
in brackets, or user information with such a character in it, gives its tail away.
-/

namespace MailboxKeeper.Redaction

open Text

variable {c : Char} {cs ds rest : List Char}

/-! ## Authorities in a message -/

/-- An authority as URLs have it: user information, a host, perhaps a literal address in brackets,
and a port. -/
structure Authority where
  text : String
  solid : text.toList ≠ []
  legal : ∀ c ∈ text.toList, isUrlChar c = true

namespace Authority

/-- The part that redaction takes for an authority. -/
def hidden (a : Authority) : List Char := a.text.toList.takeWhile isAuthorityChar

/-- The rest, from the first closing character on. -/
def shown (a : Authority) : List Char := a.text.toList.dropWhile isAuthorityChar

end Authority

/-- A place in a message where an authority stands: after a scheme, and before the end of the
message or a character that ends every authority. -/
structure Place where
  before : String
  scheme : String
  after : String
  letter : ∃ c ∈ scheme.toList.head?, c.isAlpha = true
  chars : ∀ c ∈ scheme.toList, (c.isAlphanum || c == '+' || c == '.' || c == '-') = true
  ends : ∀ c ∈ after.toList.head?, isUrlChar c = false

namespace Place

/-- The message with an authority at this place. -/
def fill (p : Place) (a : Authority) : String := p.before ++ p.scheme ++ "://" ++ a.text ++ p.after

/-- Does redaction take the scheme for one? -/
def recognised (p : Place) : Bool := opens false (p.before ++ p.scheme).toList

end Place

section Tails

variable {after : List Char}

/-- A text that nothing is hidden of can be told from what is shown. -/
theorem eq_of_redactFrom_eq (legal : ∀ c ∈ cs, isUrlChar c = true)
    (legal' : ∀ c ∈ ds, isUrlChar c = true) (ends : ∀ c ∈ after.head?, isUrlChar c = false)
    (same : redactFrom false (cs ++ after) = redactFrom false (ds ++ after)) : cs = ds := by
  have same := congrArg (List.takeWhile isUrlChar) same
  rw [takeWhile_redactFrom, takeWhile_redactFrom, takeWhile_append_of_stop legal ends,
    takeWhile_append_of_stop legal' ends] at same
  exact same

/-- The placeholder is not taken for a text that is shown from its beginning on. -/
theorem placeholder_append_ne (none : startsAuthority cs = false)
    (legal : ∀ c ∈ cs, isUrlChar c = true) (ends : ∀ c ∈ after.head?, isUrlChar c = false) :
    placeholder ++ rest ≠ redactFrom false (cs ++ after) := by
  intro same
  have same := congrArg (List.takeWhile isUrlChar) same
  rw [takeWhile_redactFrom, takeWhile_append_of_stop legal ends] at same
  rw [← same] at none
  cases none

theorem startsAuthority_append (solid : cs ≠ []) (more : List Char) :
    startsAuthority (cs ++ more) = startsAuthority cs := by
  cases cs with
  | nil => exact absurd rfl solid
  | cons c cs => rfl

theorem redactAfter_eq_iff {recognised : Bool} (solid : cs ≠ []) (solid' : ds ≠ [])
    (legal : ∀ c ∈ cs, isUrlChar c = true) (legal' : ∀ c ∈ ds, isUrlChar c = true)
    (ends : ∀ c ∈ after.head?, isUrlChar c = false) :
    redactAfter recognised (cs ++ after) = redactAfter recognised (ds ++ after) ↔
      cs = ds ∨ recognised = true ∧ startsAuthority cs = true ∧ startsAuthority ds = true ∧
        cs.dropWhile isAuthorityChar = ds.dropWhile isAuthorityChar := by
  have told : redactFrom false (cs ++ after) = redactFrom false (ds ++ after) ↔ cs = ds :=
    ⟨eq_of_redactFrom_eq legal legal' ends, fun same => by rw [same]⟩
  have stop : ∀ c ∈ after.head?, isAuthorityChar c = false :=
    fun c first => isAuthorityChar_eq_false (ends c first)
  rw [redactAfter, redactAfter, startsAuthority_append solid, startsAuthority_append solid',
    dropWhile_append_of_stop stop, dropWhile_append_of_stop stop]
  cases recognised with
  | false => simpa using told
  | true =>
    cases first : startsAuthority cs with
    | false =>
      cases second : startsAuthority ds with
      | false => simpa using told
      | true =>
        have other : cs ≠ ds := by
          rintro rfl
          rw [first] at second
          cases second
        simpa [other] using (placeholder_append_ne first legal ends).symm
    | true =>
      cases second : startsAuthority ds with
      | false =>
        have other : cs ≠ ds := by
          rintro rfl
          rw [first] at second
          cases second
        simpa [other] using placeholder_append_ne second legal' ends
      | true =>
        have rest : ∀ {es : List Char}, (∀ c ∈ es, isUrlChar c = true) →
            ∀ c ∈ es.dropWhile isAuthorityChar, isUrlChar c = true :=
          fun legal c member => legal c ((List.dropWhile_suffix _).subset member)
        rw [Bool.and_self, if_pos rfl, if_pos rfl, List.append_cancel_left_eq]
        constructor
        · intro same
          exact .inr ⟨rfl, rfl, rfl, eq_of_redactFrom_eq (rest legal) (rest legal') ends same⟩
        · rintro (rfl | ⟨-, -, -, same⟩)
          · rfl
          · rw [same]

end Tails

theorem Place.isScheme (p : Place) : IsScheme p.scheme.toList := isScheme_of_ascii p.letter p.chars

theorem Place.endsInScheme (p : Place) : EndsInScheme (p.before ++ p.scheme).toList := by
  intro c last
  rw [String.toList_append, List.getLast?_append] at last
  obtain ⟨d, first, -⟩ := p.letter
  cases final : p.scheme.toList.getLast? with
  | none =>
    rw [List.getLast?_eq_none_iff.1 final] at first
    cases first
  | some e =>
    rw [final] at last
    cases last
    exact p.isScheme.chars c (List.mem_of_getLast? final)

theorem Authority.hidden_ne_nil_iff (a : Authority) :
    a.hidden ≠ [] ↔ startsAuthority a.text.toList = true := by
  rw [Authority.hidden]
  cases a.text.toList with
  | nil => exact ⟨fun other => absurd rfl other, nofun⟩
  | cons c cs =>
    rw [List.takeWhile_cons]
    show _ ↔ isAuthorityChar c = true
    split
    · rename_i inside
      exact ⟨fun _ => inside, fun _ => List.cons_ne_nil _ _⟩
    · rename_i other
      exact ⟨fun absurd => (absurd rfl).elim, fun inside => absurd inside other⟩

theorem Authority.eq_iff {a₁ a₂ : Authority} : a₁ = a₂ ↔ a₁.text.toList = a₂.text.toList := by
  cases a₁
  cases a₂
  rw [Authority.mk.injEq, String.toList_inj]

theorem Place.toList_fill (p : Place) (a : Authority) :
    (p.fill a).toList = (p.before ++ p.scheme).toList
      ++ ':' :: '/' :: '/' :: (a.text.toList ++ p.after.toList) := by
  rw [Place.fill]
  simp only [String.toList_append, List.append_assoc]
  rfl

/-- What is made of a message, by what redaction leaves of the authority. -/
theorem Place.exists_redact_fill (p : Place) :
    ∃ shown, ∀ a : Authority, (redact (p.fill a)).toList
      = shown ++ redactAfter p.recognised (a.text.toList ++ p.after.toList) := by
  obtain ⟨shown, eq⟩ := exists_redactFrom_eq false (p.before ++ p.scheme).toList p.endsInScheme
  refine ⟨shown, fun a => ?_⟩
  rw [redact, String.toList_ofList, redactChars, p.toList_fill a]
  exact eq _

/-- A scheme with which the message begins is recognised, and one that is separated from what stands
before it. -/
theorem Place.recognised_of_separates (p : Place)
    (separate : ∀ c ∈ p.before.toList.getLast?, Separates c) : p.recognised = true := by
  obtain ⟨c, first, alpha⟩ := p.letter
  obtain ⟨tail, spelled⟩ := List.head?_eq_some_iff.1 first
  have start : isSchemeStart c = true := by simp only [isSchemeStart, alpha, Bool.true_or]
  have all : tail.all Redaction.isSchemeChar = true := by
    refine List.all_eq_true.2 fun d member => p.isScheme.chars d ?_
    rw [spelled]
    exact List.mem_cons_of_mem c member
  have opened : opens false p.scheme.toList = true := by
    rw [spelled, opens, if_neg Bool.false_ne_true, if_pos (by rw [start, all]; rfl)]
  rw [Place.recognised, String.toList_append]
  rcases List.eq_nil_or_concat p.before.toList with none | ⟨front, d, same⟩
  · rw [none]
    exact opened
  · rw [same, List.concat_eq_append] at separate
    rw [same, List.concat_eq_append, List.append_assoc]
    exact opens_append_cons (separate d List.getLast?_concat) opened false front

/-- Redaction hides every authority without closing characters, where its scheme is separated from
what stands before it. -/
theorem redact_hides (p : Place) (separate : ∀ c ∈ p.before.toList.getLast?, Separates c)
    (a₁ a₂ : Authority) (plain₁ : a₁.shown = []) (plain₂ : a₂.shown = []) :
    redact (p.fill a₁) = redact (p.fill a₂) := by
  obtain ⟨shown, eq⟩ := p.exists_redact_fill
  have starts (a : Authority) (plain : a.shown = []) : startsAuthority a.text.toList = true := by
    rw [← a.hidden_ne_nil_iff]
    intro nothing
    have whole : a.hidden ++ a.shown = a.text.toList := List.takeWhile_append_dropWhile
    rw [nothing, plain] at whole
    exact a.solid whole.symm
  rw [← String.toList_inj, eq, eq, List.append_cancel_left_eq,
    redactAfter_eq_iff a₁.solid a₂.solid a₁.legal a₂.legal p.ends]
  exact .inr ⟨p.recognised_of_separates separate, starts a₁ plain₁, starts a₂ plain₂,
    plain₁.trans plain₂.symm⟩

/-- Two messages that differ in one authority are told apart after redaction unless its scheme is
recognised, something is hidden of both authorities, and the same is shown of them. -/
theorem redact_fill_eq_iff (p : Place) (a₁ a₂ : Authority) :
    redact (p.fill a₁) = redact (p.fill a₂) ↔
      a₁ = a₂ ∨ p.recognised = true ∧ a₁.hidden ≠ [] ∧ a₂.hidden ≠ [] ∧ a₁.shown = a₂.shown := by
  obtain ⟨shown, eq⟩ := p.exists_redact_fill
  rw [← String.toList_inj, eq, eq, List.append_cancel_left_eq, Authority.eq_iff,
    a₁.hidden_ne_nil_iff, a₂.hidden_ne_nil_iff]
  exact redactAfter_eq_iff a₁.solid a₂.solid a₁.legal a₂.legal p.ends

/-- A request to a local service, addressed in either way. -/
def localRequest : Place where
  before := ""
  scheme := "http"
  after := "/api"
  letter := ⟨'h', rfl, rfl⟩
  chars := List.all_eq_true.1 (by decide +kernel)
  ends := by
    intro c first
    cases first
    rfl

def bracketed : Authority :=
  ⟨"[::1]:8080", List.cons_ne_nil _ _, List.all_eq_true.1 (by decide +kernel)⟩

def named : Authority :=
  ⟨"localhost:8080", List.cons_ne_nil _ _, List.all_eq_true.1 (by decide +kernel)⟩

/-- The closing bracket of a literal address ends what is hidden, so the port is shown. -/
theorem redact_shows_port :
    localRequest.fill bracketed = "http://[::1]:8080/api" ∧
      redact (localRequest.fill bracketed) = "http://[SERVER]]:8080/api" ∧
      redact (localRequest.fill bracketed) ≠ redact (localRequest.fill named) := by
  decide +kernel

end MailboxKeeper.Redaction
