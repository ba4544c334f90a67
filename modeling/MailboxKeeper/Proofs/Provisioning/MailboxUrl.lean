import MailboxKeeper.Proofs.Url.Segment
import MailboxKeeper.Provisioning.Exchange
import Mathlib.Data.List.Basic

/-!
# Whose mailbox a URL is about

The URL of a mailbox leads from the base path to the mailbox of exactly the named user (`LeadsTo`)
if the user id is whole, and only then, under every base path but that of two slashes. Requests for
different whole user ids go to different places.
-/

namespace MailboxKeeper.Provisioning

open Url

variable {c : Config} {scheme userId : String} {path below : List String}

/-- The path without one slash at its end. -/
def withoutSlash (path : List String) : List String :=
  if path.getLast? = some "" then path.dropLast else path

/-- The segments lead from a base path to the mailbox of that user, and on to what is below it. -/
def LeadsTo (base : List String) (userId : String) (below names : List String) : Prop :=
  ∃ segment, names = base ++ ["users", segment, "mailbox"] ++ below ∧
    percentDecode? segment.toList = some userId.toList

/-- The segments of the path to a mailbox and to what is below it. -/
def mailboxPath (scheme : String) (path : List String) (userId : String) (below : List String) :
    List String :=
  appendSegments scheme path (["users", userId, "mailbox"] ++ below)

/-- A name that stands in every path as it is. -/
def IsPlainName (name : String) : Prop :=
  IsWhole name ∧ isDrive name.toList = false ∧ ∀ c ∈ name.toList, inSegment true c = false

instance (name : String) : Decidable (IsPlainName name) :=
  have : Decidable (∀ c ∈ name.toList, inSegment true c = false) := List.decidableBAll _ _
  inferInstanceAs (Decidable (_ ∧ _ ∧ _))

theorem isPlainName_users : IsPlainName "users" := by decide +kernel

theorem isPlainName_mailbox : IsPlainName "mailbox" := by decide +kernel

theorem isPlainName_password : IsPlainName "password" := by decide +kernel

/-! ## Appending plain names -/

theorem percentEncode_eq_self {encoded : Char → Bool} {cs : List Char}
    (plain : ∀ c ∈ cs, encoded c = false) : percentEncode encoded cs = cs := by
  induction cs with
  | nil => rfl
  | cons c cs ih =>
    rw [List.forall_mem_cons] at plain
    rw [percentEncode, List.flatMap_cons, ← percentEncode, ih plain.2, encodeChar, plain.1]
    rfl

theorem segmentOf_of_isPlainName {name : String} (plain : IsPlainName name) :
    segmentOf scheme name = name := by
  have kept : ∀ c ∈ name.toList, inSegment (isSpecialScheme scheme) c = false := by
    intro c member
    have free := plain.2.2 c member
    cases isSpecialScheme scheme with
    | true => exact free
    | false =>
      simp only [inSegment, Bool.or_eq_false_iff] at free ⊢
      exact ⟨free.1, rfl⟩
  rw [segmentOf, percentEncode_eq_self kept, String.ofList_toList]

theorem appendSegment_of_isPlainName {name : String} (plain : IsPlainName name) :
    appendSegment scheme path name.toList = opened path ++ [name] := by
  have kept : segmentOf scheme name = name := segmentOf_of_isPlainName plain
  rw [appendSegment_of_isWhole plain.1 (.inr (by rw [kept]; exact plain.2.1)), kept]

theorem length_foldl_appendSegment_le (plain : ∀ name ∈ below, IsPlainName name) :
    ((below.map String.toList).foldl (appendSegment scheme) path).length
      ≤ path.length + below.length := by
  induction below generalizing path with
  | nil => exact Nat.le_refl _
  | cons name below ih =>
    rw [List.forall_mem_cons] at plain
    have rest : ((below.map String.toList).foldl (appendSegment scheme)
        (opened path ++ [name])).length ≤ (opened path ++ [name]).length + below.length :=
      ih plain.2
    have fewer : (opened path).length ≤ path.length := by
      unfold opened
      split
      · exact Nat.zero_le _
      · exact Nat.le_refl _
    rw [List.map_cons, List.foldl_cons, appendSegment_of_isPlainName plain.1]
    rw [List.length_append, List.length_singleton] at rest
    rw [List.length_cons]
    omega

theorem foldl_appendSegment (plain : ∀ name ∈ below, IsPlainName name) (deep : 1 < path.length) :
    (below.map String.toList).foldl (appendSegment scheme) path = path ++ below := by
  induction below generalizing path with
  | nil => exact (List.append_nil _).symm
  | cons name below ih =>
    rw [List.forall_mem_cons] at plain
    have solid : path ≠ [""] := by
      rintro rfl
      exact Nat.lt_irrefl 1 deep
    rw [List.map_cons, List.foldl_cons, appendSegment_of_isPlainName plain.1, opened_of_ne solid,
      ih plain.2 (by rw [List.length_append]; exact Nat.lt_add_right 1 deep), List.append_assoc]
    rfl

/-! ## The path to a mailbox -/

/-- The segments that the path to a mailbox starts with. -/
def basePath (path : List String) : List String := opened (popEmpty path)

/-- Of two slashes alone none is left; any other path loses one at its end at most. -/
theorem basePath_eq (other : path ≠ ["", ""]) : basePath path = withoutSlash path := by
  unfold basePath popEmpty withoutSlash
  by_cases ends : path.getLast? = some ""
  · rw [if_pos ends]
    by_cases lone : path = [""]
    · subst lone
      rfl
    · rw [if_pos ⟨ends, lone⟩]
      refine opened_of_ne ?_
      intro front
      have parts := List.dropLast_append_getLast? "" ends
      rw [front] at parts
      exact other parts.symm
  · rw [if_neg ends, if_neg (fun both => ends both.1)]
    refine opened_of_ne ?_
    rintro rfl
    exact ends rfl

theorem basePath_slashes : basePath ["", ""] = [] := rfl

theorem mailboxPath_eq (scheme : String) (path : List String) (userId : String)
    (below : List String) :
    mailboxPath scheme path userId below
      = (("mailbox" :: below).map String.toList).foldl (appendSegment scheme)
          (appendSegment scheme (basePath path ++ ["users"]) userId.toList) := by
  have users : appendSegment scheme (popEmpty path) "users".toList = basePath path ++ ["users"] :=
    appendSegment_of_isPlainName isPlainName_users
  rw [mailboxPath, appendSegments]
  simp only [List.cons_append, List.nil_append, List.map_cons, List.foldl_cons, users]

theorem basePath_users_ne (path : List String) : basePath path ++ ["users"] ≠ [""] := by
  intro same
  have last := congrArg List.getLast? same
  simp at last

theorem mailboxPath_of_isWhole (plain : ∀ name ∈ below, IsPlainName name)
    (whole : IsWhole userId) :
    mailboxPath scheme path userId below
      = basePath path ++ ["users", segmentOf scheme userId, "mailbox"] ++ below := by
  have solid := basePath_users_ne path
  have all : ∀ name ∈ "mailbox" :: below, IsPlainName name :=
    List.forall_mem_cons.2 ⟨isPlainName_mailbox, plain⟩
  rw [mailboxPath_eq, appendSegment_of_isWhole whole (.inl (by rw [opened_of_ne solid]; simp)),
    opened_of_ne solid, foldl_appendSegment all (by simp)]
  simp

/-- With any other user id the path is too short, or leads to another user. -/
theorem mailboxPath_of_not_isWhole (scheme : String) (path : List String)
    (plain : ∀ name ∈ below, IsPlainName name) (broken : ¬IsWhole userId) :
    (mailboxPath scheme path userId below).length < (basePath path).length + 3 + below.length ∨
      ∃ segment, mailboxPath scheme path userId below
          = basePath path ++ ["users", segment, "mailbox"] ++ below ∧
        percentDecode? segment.toList ≠ some userId.toList := by
  have all : ∀ name ∈ "mailbox" :: below, IsPlainName name :=
    List.forall_mem_cons.2 ⟨isPlainName_mailbox, plain⟩
  have short : ∀ last : String,
      ((("mailbox" :: below).map String.toList).foldl (appendSegment scheme)
        (basePath path ++ [last])).length < (basePath path).length + 3 + below.length := by
    intro last
    have bound : ((("mailbox" :: below).map String.toList).foldl (appendSegment scheme)
        (basePath path ++ [last])).length
          ≤ (basePath path ++ [last]).length + ("mailbox" :: below).length :=
      length_foldl_appendSegment_le all
    rw [List.length_append, List.length_singleton, List.length_cons] at bound
    omega
  rw [mailboxPath_eq]
  rcases appendSegment_of_not_isWhole scheme broken isPlainName_users.2.1
    (basePath_users_ne path) with skipped | left | ⟨segment, appended, unread⟩
  · rw [skipped]
    exact .inl (short "users")
  · rw [left]
    exact .inl (short "")
  · rw [appended, foldl_appendSegment all (by simp)]
    exact .inr ⟨segment, by simp, unread⟩

theorem length_basePath_le (path : List String) :
    (basePath path).length ≤ (withoutSlash path).length := by
  by_cases slashes : path = ["", ""]
  · subst slashes
    decide
  · exact Nat.le_of_eq (congrArg List.length (basePath_eq slashes))

/-- When the path leads to the mailbox of the named user. -/
theorem leadsTo_mailboxPath_iff (plain : ∀ name ∈ below, IsPlainName name) :
    LeadsTo (withoutSlash path) userId below (mailboxPath scheme path userId below)
      ↔ path ≠ ["", ""] ∧ IsWhole userId := by
  constructor
  · rintro ⟨segment, leads, read⟩
    have long := congrArg List.length leads
    have base := length_basePath_le path
    simp only [List.length_append, List.length_cons, List.length_nil] at long
    by_cases whole : IsWhole userId
    · refine ⟨?_, whole⟩
      rintro rfl
      rw [mailboxPath_of_isWhole plain whole] at long
      simp [basePath_slashes, withoutSlash] at long
      omega
    · rcases mailboxPath_of_not_isWhole scheme path plain whole with
        short | ⟨other, same, unread⟩
      · omega
      · rw [same] at leads
        have ends := List.append_cancel_right leads
        obtain ⟨-, tails⟩ := List.append_inj' ends rfl
        cases tails
        exact absurd read unread
  · rintro ⟨other, whole⟩
    refine ⟨segmentOf scheme userId, ?_, percentDecode?_segmentOf scheme userId⟩
    rw [mailboxPath_of_isWhole plain whole, basePath_eq other]

/-! ## Requests -/

theorem mailboxUrl_of_path (at_ : c.baseUrl.path = .segments path) :
    mailboxUrl c userId below
      = .ok { c.baseUrl with
          path := .segments (mailboxPath c.baseUrl.scheme path userId below) } := by
  rw [mailboxUrl, append?, at_]
  rfl

/-- An accepted configuration has a base URL that carries a path. -/
theorem path_of_new_eq_ok {baseUrl username password domain : String}
    (accepted : Config.new baseUrl username password domain = .ok c) :
    ∃ path, c.baseUrl.path = .segments path := by
  obtain ⟨url, -, carries, -, rfl⟩ := Config.of_new_eq_ok accepted
  unfold Url.isPlain at carries
  split at carries
  · cases carries
  · rename_i path same
    exact ⟨path, same⟩

/-- Requests about two whole user ids do not go to one place. -/
theorem eq_of_renderWithoutFragment_eq {u v : String} {below' : List String} {url url' : Url}
    (at_ : c.baseUrl.path = .segments path) (plain : ∀ name ∈ below, IsPlainName name)
    (plain' : ∀ name ∈ below', IsPlainName name) (whole : IsWhole u) (whole' : IsWhole v)
    (left : mailboxUrl c u below = .ok url) (right : mailboxUrl c v below' = .ok url')
    (same : url.renderWithoutFragment = url'.renderWithoutFragment) : u = v := by
  rw [mailboxUrl_of_path at_, mailboxPath_of_isWhole plain whole] at left
  rw [mailboxUrl_of_path at_, mailboxPath_of_isWhole plain' whole'] at right
  cases left
  cases right
  have texts := congrArg String.toList same
  simp only [renderWithoutFragment, Url.beforePath, Path.render, String.toList_append,
    toList_renderSegments, List.append_assoc, List.flatMap_append, List.flatMap_cons,
    List.cons_append] at texts
  -- What stands before the user's segment is the same in both, and a slash follows it.
  have rest := List.append_cancel_left (List.append_cancel_left (List.append_cancel_left
    (List.append_cancel_left texts)))
  have users := List.append_cancel_left (List.cons.inj rest).2
  exact segmentOf_inj (String.toList_inj.1 (eq_of_append_slash (slash_notMem_segmentOf _ _)
    (slash_notMem_segmentOf _ _) (by simp) (by simp) (List.cons.inj users).2))

/-- Under an accepted configuration the URL of a mailbox differs from the base URL in its path
alone, and that leads to the mailbox of the named user exactly if the user id is whole and the base
path is not that of two slashes. Different whole user ids are never sent to one place. -/
theorem mailboxUrl_leadsTo_iff {baseUrl username password domain : String}
    (accepted : Config.new baseUrl username password domain = .ok c) :
    (∀ userId below, (∀ name ∈ below, IsPlainName name) → ∃ path names,
      c.baseUrl.path = .segments path ∧
        mailboxUrl c userId below = .ok { c.baseUrl with path := .segments names } ∧
          (LeadsTo (withoutSlash path) userId below names
            ↔ path ≠ ["", ""] ∧ IsWhole userId)) ∧
      ∀ u v below below' url url', IsWhole u → IsWhole v → (∀ name ∈ below, IsPlainName name) →
        (∀ name ∈ below', IsPlainName name) → mailboxUrl c u below = .ok url →
          mailboxUrl c v below' = .ok url' →
            url.renderWithoutFragment = url'.renderWithoutFragment → u = v := by
  obtain ⟨path, at_⟩ := path_of_new_eq_ok accepted
  refine ⟨?_, ?_⟩
  · intro userId below plain
    exact ⟨path, _, at_, mailboxUrl_of_path at_, leadsTo_mailboxPath_iff plain⟩
  · intro u v below below' url url' whole whole' plain plain' left right same
    exact eq_of_renderWithoutFragment_eq at_ plain plain' whole whole' left right same

/-- The base URL of a service below a path. -/
def servicesUrl (path : List String) : Url :=
  ⟨"http", some ⟨"", "", .domain "prov.example.net", none⟩, false, .segments path, none, none⟩

/-- A configuration for that service. -/
def servicesConfig (path : List String) : Config :=
  ⟨servicesUrl path, "svc", "secret", "example.com", 30000, false⟩

/-- A slash, a blank and a percent sign in a user id stay within its segment. -/
theorem mailboxUrl_leadsTo_slash :
    Config.new "http://prov.example.net/api/" "svc" "secret" "example.com"
        = .ok (servicesConfig ["api", ""]) ∧
      ∃ names, mailboxUrl (servicesConfig ["api", ""]) "a/b %2e" ["password"]
          = .ok { (servicesConfig ["api", ""]).baseUrl with path := .segments names } ∧
        LeadsTo ["api"] "a/b %2e" ["password"] names := by
  have accepted : Config.new "http://prov.example.net/api/" "svc" "secret" "example.com"
      = .ok (servicesConfig ["api", ""]) := by decide +kernel
  obtain ⟨path, names, at_, url, leads⟩ :=
    (mailboxUrl_leadsTo_iff accepted).1 "a/b %2e" ["password"]
      (List.forall_mem_singleton.2 isPlainName_password)
  cases at_
  exact ⟨accepted, names, url, leads.2 ⟨by decide, by decide +kernel⟩⟩

/-- A tab in a user id is dropped, so that the request is about another user. -/
theorem mailboxUrl_leadsTo_tab :
    Config.new "http://prov.example.net" "svc" "secret" "example.com"
        = .ok (servicesConfig [""]) ∧
      Text.isAllBlank "a\tb" = false ∧
      mailboxUrl (servicesConfig [""]) "a\tb" [] = mailboxUrl (servicesConfig [""]) "ab" [] ∧
      ∃ names, mailboxUrl (servicesConfig [""]) "a\tb" []
          = .ok { (servicesConfig [""]).baseUrl with path := .segments names } ∧
        ¬LeadsTo (withoutSlash [""]) "a\tb" [] names := by
  refine ⟨by decide +kernel, by decide, by rfl, _, mailboxUrl_of_path rfl, ?_⟩
  rw [leadsTo_mailboxPath_iff (List.forall_mem_nil _)]
  decide +kernel

end MailboxKeeper.Provisioning
