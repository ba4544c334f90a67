import MailboxKeeper.Proofs.Provisioning.MailboxUrl
import MailboxKeeper.Proofs.Url.ReadPath

/-!
# No user id leads elsewhere

Not every user id is kept whole in the URL of a mailbox, but none leads out of the base URL: scheme,
authority, query and fragment stay as they are, and the path goes on from the base path with
segments that hold no mark of a URL and no way up (`IsBelow`). A slash at the end of the base path
makes no difference.
-/

namespace MailboxKeeper.Provisioning

open Url

variable {c : Config} {special : Bool} {scheme name : String} {cs : List Char}
variable {base path names below : List String} {url : Url}

/-- A segment that stays one wherever its URL is read: nothing in it ends a segment or a path or is
dropped, and it neither stands for nothing nor takes another segment away. -/
structure IsInert (special : Bool) (name : String) : Prop where
  closed : ∀ c ∈ name.toList,
    isSlash special c = false ∧ c ≠ '?' ∧ c ≠ '#' ∧ isDropped c = false
  noDot : isSingleDot name.toList = false
  noDots : isDoubleDot name.toList = false

/-- The segments go on from a base with one or more that are inert. -/
def GoesOn (special : Bool) (base path : List String) : Prop :=
  ∃ names, names ≠ [] ∧ path = base ++ names ∧ ∀ name ∈ names, IsInert special name

/-- The text without one slash at its end. -/
def withoutLastSlash (text : List Char) : List Char :=
  if text.getLast? = some '/' then text.dropLast else text

/-- The URL is the base URL but for its path, which goes on from that of the base URL. -/
structure IsBelow (base url : Url) : Prop where
  scheme : url.scheme = base.scheme
  /-- Name, password, host and port. -/
  authority : url.authority = base.authority
  isApart : url.isApart = base.isApart
  query : url.query = base.query
  fragment : url.fragment = base.fragment
  path : withoutLastSlash base.path.render.toList <+: url.path.render.toList
  segments : ∃ path names, base.path = .segments path ∧ url.path = .segments names ∧
    GoesOn base.isSpecial (basePath path) names

/-- The URL is the base URL with a slash behind its path, which did not end in one. -/
structure IsSlashed (base url : Url) : Prop where
  scheme : url.scheme = base.scheme
  authority : url.authority = base.authority
  query : url.query = base.query
  fragment : url.fragment = base.fragment
  path : url.path.render = base.path.render ++ "/"
  unslashed : base.path.render.toList.getLast? ≠ some '/'

/-! ## Inert segments -/

theorem closed_of_inSegment {d : Char} (plain : inSegment special d = false) :
    isSlash special d = false ∧ d ≠ '?' ∧ d ≠ '#' ∧ isDropped d = false := by
  have apart (e : Char) (covered : ∀ special, inSegment special e = true) : d ≠ e := by
    rintro rfl
    rw [covered] at plain
    cases plain
  have slash : isSlash special d = false := by
    simp only [inSegment, Bool.or_eq_false_iff] at plain
    simp only [isSlash, Bool.or_eq_false_iff]
    exact ⟨plain.1.1.2, plain.2⟩
  have dropped : isDropped d = false := by
    simp only [isDropped, Bool.or_eq_false_iff, beq_eq_false_iff_ne]
    exact ⟨⟨apart '\t' (by decide), apart '\n' (by decide)⟩, apart '\r' (by decide)⟩
  exact ⟨slash, apart '?' (by decide), apart '#' (by decide), dropped⟩

theorem closed_hexDigit (special : Bool) {n : Nat} (small : n < 16) :
    isSlash special (hexDigit n) = false ∧ hexDigit n ≠ '?' ∧ hexDigit n ≠ '#' ∧
      isDropped (hexDigit n) = false := by
  have all : ∀ special, ∀ n < 16, isSlash special (hexDigit n) = false ∧ hexDigit n ≠ '?' ∧
      hexDigit n ≠ '#' ∧ isDropped (hexDigit n) = false := by decide
  exact all special n small

theorem isInert_percentEncode (special : Bool) (one : cs ≠ ['.']) (two : cs ≠ ['.', '.']) :
    IsInert special (String.ofList (percentEncode (inSegment special) cs)) where
  closed := by
    intro d member
    rw [String.toList_ofList] at member
    rcases mem_percentEncode member with ⟨-, plain⟩ | rfl | ⟨n, small, rfl⟩
    · exact closed_of_inSegment plain
    · cases special <;> decide
    · exact closed_hexDigit special small
  noDot := by
    rw [String.toList_ofList, ← Bool.not_eq_true]
    exact mt isSingleDot_percentEncode.1 one
  noDots := by
    rw [String.toList_ofList, ← Bool.not_eq_true]
    exact mt isDoubleDot_percentEncode.1 two

theorem isInert_empty (special : Bool) : IsInert special "" where
  closed := nofun
  noDot := rfl
  noDots := rfl

theorem isInert_of_isPlainName (scheme : String) (plain : IsPlainName name) :
    IsInert (isSpecialScheme scheme) name := by
  have spelled : segmentOf scheme name = name := segmentOf_of_isPlainName plain
  obtain ⟨⟨one, two, -⟩, -⟩ := plain
  rw [← spelled]
  exact isInert_percentEncode _ (mt (toList_eq_iff ".").1 one) (mt (toList_eq_iff "..").1 two)

/-! ## Going on from the base path -/

/-- A plain name goes on, whatever stands behind the base. -/
theorem GoesOn.appendSegment (goesOn : GoesOn (isSpecialScheme scheme) base path)
    (solid : base ≠ [""]) (plain : IsPlainName name) :
    GoesOn (isSpecialScheme scheme) base (appendSegment scheme path name.toList) := by
  have inert := isInert_of_isPlainName scheme plain
  obtain ⟨names, some_, rfl, each⟩ := goesOn
  rw [appendSegment_of_isPlainName plain]
  by_cases lone : base ++ names = [""]
  · -- The lone empty segment gives way, and none of it was of the base.
    have nothing : base = [] := by
      rcases List.append_eq_singleton_iff.1 lone with ⟨nothing, -⟩ | ⟨whole, -⟩
      · exact nothing
      · exact absurd whole solid
    subst nothing
    rw [opened, if_pos lone]
    exact ⟨[name], List.cons_ne_nil _ _, rfl, List.forall_mem_singleton.2 inert⟩
  · rw [opened_of_ne lone, List.append_assoc]
    refine ⟨names ++ [name], by simp, rfl, ?_⟩
    exact List.forall_mem_append.2 ⟨each, List.forall_mem_singleton.2 inert⟩

theorem GoesOn.foldl_appendSegment (goesOn : GoesOn (isSpecialScheme scheme) base path)
    (solid : base ≠ [""]) (plain : ∀ name ∈ below, IsPlainName name) :
    GoesOn (isSpecialScheme scheme) base
      ((below.map String.toList).foldl (Url.appendSegment scheme) path) := by
  induction below generalizing path with
  | nil => exact goesOn
  | cons name below ih =>
    rw [List.forall_mem_cons] at plain
    exact ih (goesOn.appendSegment solid plain.1) plain.2

/-- Whatever the user id is, at most the segment `users` is taken away for it. -/
theorem goesOn_appendSegment_users (scheme : String) (base : List String) (userId : List Char) :
    GoesOn (isSpecialScheme scheme) base (appendSegment scheme (base ++ ["users"]) userId) := by
  have users := isInert_of_isPlainName scheme isPlainName_users
  have solid : base ++ ["users"] ≠ [""] := by
    intro same
    have last := congrArg List.getLast? same
    simp at last
  rcases appendSegment_behind scheme isPlainName_users.2.1 solid userId with
    ⟨skipped, -⟩ | left | ⟨segment, appended, ⟨rfl, -⟩ | ⟨rfl, one, two⟩⟩
  · rw [skipped]
    exact ⟨["users"], List.cons_ne_nil _ _, rfl, List.forall_mem_singleton.2 users⟩
  · rw [left]
    exact ⟨[""], List.cons_ne_nil _ _, rfl, List.forall_mem_singleton.2 (isInert_empty _)⟩
  · rw [appended]
    refine ⟨["users", ""], List.cons_ne_nil _ _, rfl, List.forall_mem_cons.2 ⟨users, ?_⟩⟩
    exact List.forall_mem_singleton.2 (isInert_empty _)
  · rw [appended]
    refine ⟨["users", _], List.cons_ne_nil _ _, rfl, List.forall_mem_cons.2 ⟨users, ?_⟩⟩
    exact List.forall_mem_singleton.2 (isInert_percentEncode _ one two)

theorem basePath_ne (path : List String) : basePath path ≠ [""] := by
  unfold basePath opened
  split
  · exact nofun
  · rename_i solid
    exact solid

theorem goesOn_mailboxPath (scheme : String) (path : List String) (userId : String)
    (plain : ∀ name ∈ below, IsPlainName name) :
    GoesOn (isSpecialScheme scheme) (basePath path) (mailboxPath scheme path userId below) := by
  rw [mailboxPath_eq]
  apply (goesOn_appendSegment_users _ _ _).foldl_appendSegment (basePath_ne path)
  exact List.forall_mem_cons.2 ⟨isPlainName_mailbox, plain⟩

/-! ## The text of the path -/

theorem renderSegments_append (names names' : List String) :
    renderSegments (names ++ names') = renderSegments names ++ renderSegments names' := by
  rw [← String.toList_inj, String.toList_append]
  simp only [toList_renderSegments, List.flatMap_append]

theorem renderSegments_empty : renderSegments [""] = "/" := by decide

theorem prefix_of_goesOn (goesOn : GoesOn special (basePath path) names) :
    withoutLastSlash (renderSegments path).toList <+: (renderSegments names).toList := by
  obtain ⟨added, some_, rfl, -⟩ := goesOn
  by_cases slashes : path = ["", ""]
  · -- Of the two slashes one is left, and the path goes on with a slash.
    subst slashes
    obtain ⟨name, rest, rfl⟩ := List.exists_cons_of_ne_nil some_
    rw [basePath_slashes, List.nil_append, toList_renderSegments, toList_renderSegments]
    exact ⟨_, rfl⟩
  · rw [basePath_eq slashes, renderSegments_append, String.toList_append]
    refine List.IsPrefix.trans ?_ (List.prefix_append _ _)
    unfold withoutSlash
    split
    · rename_i ends
      have parts := List.dropLast_append_getLast? "" ends
      have text : (renderSegments path).toList
          = (renderSegments path.dropLast).toList ++ ['/'] := by
        rw [← parts, renderSegments_append, String.toList_append, parts, renderSegments_empty]
        rfl
      have cut : withoutLastSlash (renderSegments path).toList
          = (renderSegments path.dropLast).toList := by
        rw [withoutLastSlash, text, if_pos List.getLast?_concat, List.dropLast_concat]
      exact cut ▸ List.prefix_refl _
    · unfold withoutLastSlash
      split
      · exact List.dropLast_prefix _
      · exact List.prefix_refl _

theorem isBelow_of_goesOn {base : Url} (at_ : base.path = .segments path)
    (goesOn : GoesOn base.isSpecial (basePath path) names) :
    IsBelow base { base with path := .segments names } where
  scheme := rfl
  authority := rfl
  isApart := rfl
  query := rfl
  fragment := rfl
  path := by
    rw [at_]
    exact prefix_of_goesOn goesOn
  segments := ⟨path, names, at_, rfl, goesOn⟩

/-! ## A slash at the end of the base path -/

theorem basePath_append_empty (unslashed : path.getLast? ≠ some "") :
    basePath (path ++ [""]) = basePath path := by
  have kept : popEmpty path = path := if_neg fun both => unslashed both.1
  cases path with
  | nil => rfl
  | cons name path =>
    have popped : popEmpty (name :: path ++ [""]) = name :: path := by
      rw [popEmpty, if_pos ⟨List.getLast?_concat, by simp⟩, List.dropLast_concat]
    rw [basePath, basePath, popped, kept]

theorem getLast?_ne_of_unslashed (unslashed : (renderSegments path).toList.getLast? ≠ some '/') :
    path.getLast? ≠ some "" := by
  intro ends
  have parts := List.dropLast_append_getLast? "" ends
  rw [← parts, renderSegments_append, renderSegments_empty, String.toList_append] at unslashed
  exact unslashed List.getLast?_concat

theorem opensEmpty_append_empty (unslashed : path.getLast? ≠ some "") :
    (Path.segments (path ++ [""])).opensEmpty = (Path.segments path).opensEmpty := by
  match path with
  | [] => rfl
  | [name] =>
    have full : name ≠ "" := by
      rintro rfl
      exact unslashed rfl
    simp [Path.opensEmpty, full]
  | name :: _ :: _ =>
    by_cases empty : name = ""
    · subst empty
      rfl
    · simp [Path.opensEmpty, empty]

/-- The base URL with a slash behind its path is told by its text. -/
theorem IsSlashed.eq {base : Url} (slashed : IsSlashed base url) (at_ : base.path = .segments path)
    (at' : url.path = .segments names) (read : IsRead base) (read' : IsRead url) :
    url = { base with path := .segments (path ++ [""]) } ∧ path.getLast? ≠ some "" := by
  have unslashed : path.getLast? ≠ some "" := by
    have text := slashed.unslashed
    rw [at_] at text
    exact getLast?_ne_of_unslashed text
  have free : SlashFree path := by
    have free := read.path
    rwa [at_] at free
  have free' : SlashFree names := by
    have free := read'.path
    rwa [at'] at free
  have same : names = path ++ [""] := by
    refine renderSegments_inj free' (slashFree_append.2 ⟨free, slashFree_empty⟩) ?_
    rw [renderSegments_append, renderSegments_empty]
    have text := slashed.path
    rwa [at_, at'] at text
  subst same
  have apart : url.isApart = base.isApart := by
    rw [read.isApart, read'.isApart, slashed.authority, at_, at',
      opensEmpty_append_empty unslashed]
  refine ⟨?_, unslashed⟩
  cases url
  cases base
  cases slashed
  simp_all

theorem mailboxPath_slashed (scheme userId : String) (below : List String)
    (unslashed : path.getLast? ≠ some "") :
    mailboxPath scheme (path ++ [""]) userId below = mailboxPath scheme path userId below := by
  rw [mailboxPath_eq, mailboxPath_eq, basePath_append_empty unslashed]

theorem isRead_of_new_eq_ok {baseUrl username password domain : String}
    (accepted : Config.new baseUrl username password domain = .ok c) : IsRead c.baseUrl := by
  obtain ⟨url, read, -, -, rfl⟩ := Config.of_new_eq_ok accepted
  exact isRead_of_parse_eq_ok read

/-- Under an accepted configuration every user id has a URL of its mailbox, and of the password
below it, which is the base URL with a path that goes on from the base path. A slash behind a base
path without one changes nothing: neither put there, nor with a configuration whose base URL was
read with it. -/
theorem mailboxUrl_confined {baseUrl username password domain : String}
    (accepted : Config.new baseUrl username password domain = .ok c) (userId : String)
    (known : below ∈ [[], ["password"]]) :
    ∃ url, mailboxUrl c userId below = .ok url ∧ IsBelow c.baseUrl url ∧
      (∀ path, c.baseUrl.path = .segments path →
        (renderSegments path).toList.getLast? ≠ some '/' →
          renderSegments (path ++ [""]) = renderSegments path ++ "/" ∧
            mailboxUrl { c with baseUrl := { c.baseUrl with path := .segments (path ++ [""]) } }
              userId below = .ok url) ∧
      ∀ baseUrl' username' password' domain' c',
        Config.new baseUrl' username' password' domain' = .ok c' →
          IsSlashed c.baseUrl c'.baseUrl → mailboxUrl c' userId below = .ok url := by
  have plain : ∀ name ∈ below, IsPlainName name := by
    rcases List.mem_pair.1 known with rfl | rfl
    · exact List.forall_mem_nil _
    · exact List.forall_mem_singleton.2 isPlainName_password
  obtain ⟨path, at_⟩ := path_of_new_eq_ok accepted
  have slashed : ∀ c' : Config, path.getLast? ≠ some "" →
      c'.baseUrl = { c.baseUrl with path := .segments (path ++ [""]) } →
        mailboxUrl c' userId below = .ok { c.baseUrl with
          path := .segments (mailboxPath c.baseUrl.scheme path userId below) } := by
    intro c' unslashed same
    have at' : c'.baseUrl.path = .segments (path ++ [""]) := by rw [same]
    rw [mailboxUrl_of_path at', same, mailboxPath_slashed _ _ _ unslashed]
  refine ⟨_, mailboxUrl_of_path at_, isBelow_of_goesOn at_ (goesOn_mailboxPath _ _ _ plain), ?_, ?_⟩
  · intro path' at' unslashed
    rw [at_] at at'
    cases at'
    exact ⟨renderSegments_append _ _, slashed _ (getLast?_ne_of_unslashed unslashed) rfl⟩
  · intro baseUrl' username' password' domain' c' accepted' isSlashed
    obtain ⟨path', at'⟩ := path_of_new_eq_ok accepted'
    obtain ⟨same, unslashed⟩ := isSlashed.eq at_ at' (isRead_of_new_eq_ok accepted)
      (isRead_of_new_eq_ok accepted')
    exact slashed c' unslashed same

/-- A user id that takes `users` away is still confined, with a slash behind the base path or
without. -/
theorem mailboxUrl_confined_up :
    Config.new "http://prov.example.net/api" "svc" "secret" "example.com"
        = .ok (servicesConfig ["api"]) ∧
      ∃ url, mailboxUrl (servicesConfig ["api"]) ".\t." ["password"] = .ok url ∧
        IsBelow (servicesUrl ["api"]) url ∧
        mailboxUrl (servicesConfig ["api", ""]) ".\t." ["password"] = .ok url := by
  have accepted : Config.new "http://prov.example.net/api" "svc" "secret" "example.com"
      = .ok (servicesConfig ["api"]) := by decide +kernel
  have accepted' : Config.new "http://prov.example.net/api/" "svc" "secret" "example.com"
      = .ok (servicesConfig ["api", ""]) := by decide +kernel
  obtain ⟨url, made, isBelow, -, slashed⟩ :=
    mailboxUrl_confined accepted ".\t." (List.mem_pair.2 (.inr rfl))
  refine ⟨accepted, url, made, isBelow, slashed _ _ _ _ _ accepted' ?_⟩
  exact ⟨rfl, rfl, rfl, rfl, by decide +kernel, by decide +kernel⟩

end MailboxKeeper.Provisioning
