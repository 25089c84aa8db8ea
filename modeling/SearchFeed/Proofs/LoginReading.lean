import SearchFeed.Url.Reader

/-! # Reading addresses with a login

A user name and a password of letters and digits, written before the at sign of
an address of the web, are found as such whatever comes after them. Nothing else
in the address depends on them, and neither does whether it can be read. Without
a scheme in front, the user name itself is taken for one.
-/

namespace SearchFeed

/-- A text of one or more ASCII letters and digits. -/
structure PlainWord where
  text : String
  ne_empty : text ≠ ""
  plain : text.toList.all Char.isAlphanum = true

namespace PlainWord

def toList (word : PlainWord) : List Char := word.text.toList

theorem plain_toList (word : PlainWord) : ∀ c ∈ word.toList, c.isAlphanum = true :=
  List.all_eq_true.mp word.plain

theorem exists_eq_cons (word : PlainWord) :
    ∃ c rest, word.toList = c :: rest ∧ c.isAlphanum = true := by
  cases hword : word.toList with
  | nil => exact absurd (String.toList_eq_nil_iff.mp hword) word.ne_empty
  | cons c rest => exact ⟨c, rest, rfl, word.plain_toList c (hword ▸ List.mem_cons_self)⟩

end PlainWord

/-- A user name and a password. -/
structure Login where
  user : PlainWord
  password : PlainWord

/-- What an address begins with, before its login. -/
inductive Lead where
  | bare
  | http
  | https
deriving DecidableEq

def Lead.text : Lead → String
  | bare => ""
  | http => "http://"
  | https => "https://"

namespace Login

/-- The login as it stands before the at sign. -/
def chars (login : Login) : List Char := login.user.toList ++ ':' :: login.password.toList

def address (login : Login) (lead : Lead) (rest : String) : String :=
  lead.text ++ login.user.text ++ ":" ++ login.password.text ++ "@" ++ rest

variable (login : Login)

/-- An address with a login, as the list of its characters. -/
theorem toList_address (lead : Lead) (rest : String) :
    (login.address lead rest).toList = lead.text.toList ++ (login.chars ++ '@' :: rest.toList) := by
  simp [address, chars, PlainWord.toList]

/-- What holds of letters, digits and the colon holds of every character of a login. -/
theorem forall_chars {holds : Char → Prop} (hplain : ∀ c : Char, c.isAlphanum = true → holds c)
    (hcolon : holds ':') : ∀ c ∈ login.chars, holds c := by
  intro c hc
  rcases List.mem_append.mp hc with huser | hrest
  · exact hplain c (login.user.plain_toList c huser)
  · rcases List.mem_cons.mp hrest with rfl | hpassword
    · exact hcolon
    · exact hplain c (login.password.plain_toList c hpassword)

end Login

namespace Url

section Characters

variable {c : Char}

theorem ne_of_isAlphanum (hc : c.isAlphanum = true) (sign : Char)
    (hsign : sign.isAlphanum = false) : c ≠ sign := by
  rintro rfl
  rw [hc] at hsign
  cases hsign

theorem isAlphanum_bounds (hc : c.isAlphanum = true) : 0x20 < c.toNat ∧ c.toNat ≤ 0x7e := by
  change ((decide (65 ≤ c.val ∧ c.val ≤ 90) || (decide (97 ≤ c.val) && decide (c.val ≤ 122))) ||
    (decide (48 ≤ c.val) && decide (c.val ≤ 57))) = true at hc
  simp only [Bool.or_eq_true, Bool.and_eq_true, decide_eq_true_eq, UInt32.le_iff_toNat_le] at hc
  change ((65 ≤ c.toNat ∧ c.toNat ≤ 90) ∨ (97 ≤ c.toNat ∧ c.toNat ≤ 122)) ∨
    (48 ≤ c.toNat ∧ c.toNat ≤ 57) at hc
  omega

/-- Letters and digits of a login are written as they are. -/
theorem encodeWith_plain {text : List Char} (hplain : ∀ c ∈ text, c.isAlphanum = true) :
    encodeWith credentialEncoded text = text := by
  have hsigns : credentialEncoded.toList.all (!Char.isAlphanum ·) = true := by decide
  induction text with
  | nil => rfl
  | cons c rest ih =>
      have hc := hplain c List.mem_cons_self
      obtain ⟨hlow, hhigh⟩ := isAlphanum_bounds hc
      have hother : c ∉ credentialEncoded.toList := by
        intro hmem
        have hsign := List.all_eq_true.mp hsigns c hmem
        rw [hc] at hsign
        cases hsign
      have hkept : ¬ (c.toNat < 0x20 || 0x7e < c.toNat ||
          credentialEncoded.toList.contains c) = true := by
        simp only [Bool.or_eq_true, decide_eq_true_eq, List.contains_iff_mem, hother, or_false]
        omega
      have hrest := ih fun d hd => hplain d (List.mem_cons_of_mem c hd)
      rw [encodeWith] at hrest ⊢
      rw [List.flatMap_cons, if_neg hkept, hrest]
      rfl

end Characters

section Splitting

theorem dropWhile_append_of_none {goes : Char → Bool} {front : List Char} (hfront : front ≠ [])
    (hnone : ∀ c ∈ front, goes c = false) (rest : List Char) :
    (front ++ rest).dropWhile goes = front ++ rest := by
  obtain ⟨c, more, rfl⟩ := List.exists_cons_of_ne_nil hfront
  exact List.dropWhile_cons_of_neg (Bool.eq_false_iff.mp (hnone c List.mem_cons_self))

/-- Cleaning leaves alone what a text begins with if there are no blanks in it, and what it does to
the rest does not depend on that. -/
theorem exists_cleaned_append (rest : List Char) :
    ∃ tail, ∀ front : List Char, front ≠ [] → (∀ c ∈ front, 0x20 < c.toNat) →
      cleaned (front ++ rest) = front ++ tail := by
  let isEdge := fun (c : Char) => decide (c.toNat ≤ 0x20)
  let isKept := fun (c : Char) => c ≠ '\t' && c ≠ '\n' && c ≠ '\r'
  refine ⟨(rest.reverse.dropWhile isEdge).reverse.filter isKept, fun front hfront hfilled => ?_⟩
  have hinside : ∀ c ∈ front, isEdge c = false := fun c hc =>
    decide_eq_false (Nat.not_le.mpr (hfilled c hc))
  have hstart := dropWhile_append_of_none hfront hinside rest
  have hend : (front ++ rest).reverse.dropWhile isEdge =
      rest.reverse.dropWhile isEdge ++ front.reverse := by
    rw [List.reverse_append, List.dropWhile_append]
    split
    next hempty =>
      -- The rest is blank, so that the end of what stands before it is the end of the text.
      have hinside' : ∀ c ∈ front.reverse, isEdge c = false := fun c hc =>
        hinside c (List.mem_reverse.mp hc)
      have hback := dropWhile_append_of_none (by simpa using hfront) hinside' []
      rwa [List.isEmpty_iff.mp hempty, List.nil_append, ← List.append_nil front.reverse]
    next => rfl
  have hfilter : front.filter isKept = front := by
    refine List.filter_eq_self.mpr fun c hc => ?_
    have hlow := hfilled c hc
    simp only [isKept, ne_eq, decide_not, Bool.and_eq_true, Bool.not_eq_true',
      decide_eq_false_iff_not]
    refine ⟨⟨?_, ?_⟩, ?_⟩ <;> rintro rfl <;> exact absurd hlow (by decide)
  change ((((front ++ rest).dropWhile isEdge).reverse.dropWhile isEdge).reverse.filter isKept) = _
  rw [hstart, hend, List.reverse_append, List.reverse_reverse, List.filter_append, hfilter]

/-- A front without a sign goes before the cut as a whole. -/
theorem splitBefore_append {signs : Char → Bool} {front : List Char}
    (hfront : ∀ c ∈ front, signs c = false) (rest : List Char) :
    splitBefore signs (front ++ rest) =
      (front ++ (splitBefore signs rest).1, (splitBefore signs rest).2) := by
  have hnone : ∀ c ∈ front, (!signs c) = true := fun c hc => by rw [hfront c hc]; rfl
  rw [splitBefore, List.takeWhile_append_of_pos hnone, List.dropWhile_append_of_pos hnone]
  rfl

theorem takeWhile_append_stop {goes : Char → Bool} {stop : Char} (hstop : goes stop = false)
    (front rest : List Char) :
    (front ++ stop :: rest).takeWhile goes = front.takeWhile goes := by
  induction front with
  | nil => exact List.takeWhile_cons_of_neg (Bool.eq_false_iff.mp hstop)
  | cons c front ih => simp only [List.cons_append, List.takeWhile_cons, ih]

/-- Credentials end at the last at sign, so that what comes before the first one is part of them. -/
theorem exists_splitCredentials (rest : List Char) :
    ∃ more after, ∀ front : List Char,
      splitCredentials (front ++ '@' :: rest) = some (front ++ more, after) := by
  let after := (rest.reverse.takeWhile (· ≠ '@')).reverse
  refine ⟨('@' :: rest).take (rest.length - after.length), after, fun front => ?_⟩
  have hlast : ((front ++ '@' :: rest).reverse.takeWhile (· ≠ '@')).reverse = after := by
    rw [List.reverse_append, List.reverse_cons, List.append_assoc]
    exact congrArg List.reverse (takeWhile_append_stop (by decide) rest.reverse front.reverse)
  have hlength : (front ++ '@' :: rest).length - after.length - 1 =
      front.length + (rest.length - after.length) := by
    have hle : after.length ≤ rest.length := by
      simpa [after] using (List.takeWhile_sublist (· ≠ '@') (l := rest.reverse)).length_le
    rw [List.length_append, List.length_cons]
    omega
  rw [splitCredentials, if_pos (by simp)]
  simp only [hlast, hlength, List.take_length_add_append]

/-- A login is read as a user name and a password; what follows it counts as a part of the
password. -/
theorem readCredentials_login (login : Login) (more : List Char) :
    readCredentials (login.chars ++ more) = (login.user.toList,
      some (encodeWith credentialEncoded (login.password.toList ++ more))) := by
  obtain ⟨c, rest, hpassword, -⟩ := login.password.exists_eq_cons
  have hname : ∀ c ∈ login.user.toList, decide (c ≠ ':') = true := fun c hc =>
    decide_eq_true (ne_of_isAlphanum (login.user.plain_toList c hc) ':' (by decide))
  rw [readCredentials, Login.chars, List.append_assoc, List.takeWhile_append_of_pos hname,
    List.dropWhile_append_of_pos hname]
  simp [hpassword, encodeWith_plain login.user.plain_toList]

end Splitting

/-- Reads what comes after the login in an address of a known scheme: the host, the port and what is
left. -/
def readPlace? (scheme text : List Char) : Option (Authority × List Char) := do
  let (hostText, portText) := splitHost false text
  let host ← readHost? hostText
  if host.isEmpty then none
  else
    let (port, rest) ← readPort? (portText.drop 1)
    some ({ host, port := if port = defaultPort? scheme then none else port }, rest)

/-- An authority in the name of a user. -/
def Authority.inNameOf (authority : Authority) (user password : List Char) : Authority :=
  { authority with username := user, password := some password }

section Reading

/-- The host and the port are read without regard to the login. -/
theorem exists_readAuthority {scheme : List Char} (hkind : schemeKind scheme = .known)
    (rest : List Char) :
    ∃ place? : Option (Authority × List Char), ∀ login : Login, ∃ password,
      readAuthority? scheme (login.chars ++ '@' :: rest) =
        place?.map fun (authority, after) =>
          (authority.inNameOf login.user.toList password, after) := by
  obtain ⟨more, after, hsplit⟩ := exists_splitCredentials rest
  refine ⟨readPlace? scheme after, fun login =>
    ⟨encodeWith credentialEncoded (login.password.toList ++ more), ?_⟩⟩
  obtain ⟨c, user, huser, -⟩ := login.user.exists_eq_cons
  have hspecial : (schemeKind scheme).isSpecial = true := by rw [hkind]; rfl
  simp only [readAuthority?, hsplit, Option.getD_some, readCredentials_login, readPlace?, hspecial,
    if_true]
  cases readHost? (splitHost false after).1 with
  | none => rfl
  | some host =>
      -- Without a host a port would do, but not where a user is named.
      cases host with
      | nil => simp [huser]
      | cons first host =>
          cases readPort? ((splitHost false after).2.drop 1) with
          | none => rfl
          | some port => rfl

/-- The reading of an address with a scheme the standard knows, cut at what ends the path and at
what ends the authority. -/
theorem ofChars?_known {characters scheme rest : List Char}
    (hread : readScheme? (cleaned characters) = some (scheme, rest))
    (hkind : schemeKind scheme = .known) :
    ofChars? characters =
      let (before, after) := splitBefore endsPath rest
      let (spot, path) := splitBefore (SchemeKind.endsAuthority .known)
        (before.dropWhile fun c => c = '/' || c = '\\')
      if spot = ['@'] ∧ (!path.isEmpty || !after.isEmpty) then none
      else (readAuthority? scheme spot).map fun (authority, rest) =>
        { scheme, authority := some authority, path := readPath .known (rest ++ path),
          query := (readQuery .known after).1, fragment := (readQuery .known after).2 } := by
  rw [ofChars?, hread]
  simp only [Option.bind_eq_bind, Option.bind_some, hkind]
  split
  next => rfl
  next =>
    cases readAuthority? scheme _ with
    | none => rfl
    | some found => rfl

/-- A login is never cut by signs that are no letters and digits. -/
theorem splitBefore_login {signs : Char → Bool}
    (hplain : ∀ c : Char, c.isAlphanum = true → signs c = false) (hcolon : signs ':' = false)
    (hat : signs '@' = false) (login : Login) (rest : List Char) :
    splitBefore signs (login.chars ++ '@' :: rest) =
      (login.chars ++ '@' :: (splitBefore signs rest).1, (splitBefore signs rest).2) := by
  have hfront : ∀ c ∈ login.chars ++ ['@'], signs c = false := by
    intro c hc
    rcases List.mem_append.mp hc with hlogin | hlast
    · exact login.forall_chars hplain hcolon c hlogin
    · rw [List.mem_singleton.mp hlast, hat]
  simpa using splitBefore_append hfront rest

theorem not_endsPath (c : Char) (hc : c.isAlphanum = true) : endsPath c = false := by
  have hquery := ne_of_isAlphanum hc '?' (by decide)
  have hfragment := ne_of_isAlphanum hc '#' (by decide)
  simp [endsPath, hquery, hfragment]

theorem not_isSlash {c : Char} (hc : c.isAlphanum = true) : ¬ (c = '/' || c = '\\') = true := by
  have hslash := ne_of_isAlphanum hc '/' (by decide)
  have hback := ne_of_isAlphanum hc '\\' (by decide)
  simp [hslash, hback]

theorem not_endsAuthority (c : Char) (hc : c.isAlphanum = true) :
    SchemeKind.endsAuthority .known c = false := by
  have hpath := not_endsPath c hc
  have hslash := not_isSlash hc
  simp_all [SchemeKind.endsAuthority, endsPath]

/-- There is nothing to clean in an address before what comes after its login. -/
theorem exists_cleaned_address (rest : String) : ∃ tail, ∀ (lead : Lead) (login : Login),
    cleaned (login.address lead rest).toList =
      lead.text.toList ++ (login.chars ++ '@' :: tail) := by
  obtain ⟨tail, hcleaned⟩ := exists_cleaned_append rest.toList
  refine ⟨tail, fun lead login => ?_⟩
  have hlead : lead.text.toList.all (0x20 < Char.toNat ·) = true := by cases lead <;> decide
  have hfront : ∀ c ∈ lead.text.toList ++ (login.chars ++ ['@']), 0x20 < c.toNat := by
    simp only [List.mem_append, List.mem_singleton]
    rintro c (hc | hc | rfl)
    · simpa using List.all_eq_true.mp hlead c hc
    · exact login.forall_chars (fun d hd => (isAlphanum_bounds hd).1) (by decide) c hc
    · decide
  have hclean := hcleaned _ (by simp) hfront
  simpa [login.toList_address] using hclean

/-- A lead other than the bare one is read as a known scheme with its two slashes. -/
theorem exists_webScheme {lead : Lead} (hlead : lead ≠ .bare) :
    ∃ scheme, schemeKind scheme = .known ∧ ∀ text,
      readScheme? (lead.text.toList ++ text) = some (scheme, '/' :: '/' :: text) := by
  cases lead with
  | bare => exact absurd rfl hlead
  | http => exact ⟨"http".toList, by decide, fun text => rfl⟩
  | https => exact ⟨"https".toList, by decide, fun text => rfl⟩

/-- What an address of the web with a login is read as does not depend on the login, save that the
authority is in the name of its user. -/
theorem exists_site {lead : Lead} (hlead : lead ≠ .bare) (rest : String) :
    ∃ site? : Option (Url × Authority), ∀ login : Login, ∃ password,
      ofText? (login.address lead rest) = site?.map fun (url, authority) =>
        { url with authority := some (authority.inNameOf login.user.toList password) } := by
  obtain ⟨scheme, hkind, hscheme⟩ := exists_webScheme hlead
  obtain ⟨tail, hcleaned⟩ := exists_cleaned_address rest
  let parts := splitBefore endsPath tail
  let spot := splitBefore (SchemeKind.endsAuthority .known) parts.1
  obtain ⟨place?, hplace⟩ := exists_readAuthority hkind spot.1
  let page := fun (after : List Char) =>
    { scheme, authority := none, path := readPath .known (after ++ spot.2),
      query := (readQuery .known parts.2).1, fragment := (readQuery .known parts.2).2 : Url }
  refine ⟨place?.map fun (authority, after) => (page after, authority), fun login => ?_⟩
  obtain ⟨password, hauthority⟩ := hplace login
  refine ⟨password, ?_⟩
  obtain ⟨c, user, huser, hc⟩ := login.user.exists_eq_cons
  have hread : readScheme? (cleaned (login.address lead rest).toList) =
      some (scheme, '/' :: '/' :: (login.chars ++ '@' :: tail)) := by
    rw [hcleaned, hscheme]
  have hbefore : splitBefore endsPath ('/' :: '/' :: (login.chars ++ '@' :: tail)) =
      ('/' :: '/' :: (login.chars ++ '@' :: parts.1), parts.2) := by
    have hslashes : ∀ c ∈ ['/', '/'], endsPath c = false := by simp [endsPath]
    have hlogin := splitBefore_login not_endsPath (by decide) (by decide) login tail
    have hsplit := splitBefore_append hslashes (login.chars ++ '@' :: tail)
    rwa [hlogin] at hsplit
  have hdropped : (('/' :: '/' :: (login.chars ++ '@' :: parts.1)).dropWhile
      fun c => c = '/' || c = '\\') = login.chars ++ '@' :: parts.1 := by
    rw [List.dropWhile_cons_of_pos (by decide), List.dropWhile_cons_of_pos (by decide),
      Login.chars, huser]
    exact List.dropWhile_cons_of_neg (not_isSlash hc)
  have hspot := splitBefore_login not_endsAuthority (by decide) (by decide) login parts.1
  have hnamed : ¬ login.chars ++ '@' :: spot.1 = ['@'] := by
    rw [Login.chars, huser]
    simp
  rw [ofText?, ofChars?_known hread hkind]
  simp only [hbefore, hdropped, hspot]
  rw [if_neg fun hlone => hnamed hlone.1, hauthority]
  cases place? with
  | none => rfl
  | some found => rfl

/-- Without a scheme in front, the user name is taken for one if it begins with a letter. -/
theorem readScheme?_login (login : Login) (text : List Char) :
    readScheme? (login.chars ++ text) = none ∨
      readScheme? (login.chars ++ text) =
        some (login.user.toList.map Char.toLower, login.password.toList ++ text) := by
  obtain ⟨c, user, huser, -⟩ := login.user.exists_eq_cons
  have hplain := login.user.plain_toList
  rw [huser] at hplain
  have hin : ∀ d ∈ c :: user, (d.isAlphanum || d = '+' || d = '-' || d = '.') = true := by
    intro d hd
    simp [hplain d hd]
  rw [Login.chars, huser, List.append_assoc, List.cons_append]
  simp only [readScheme?]
  split
  next => exact .inl rfl
  next =>
    refine .inr ?_
    rw [← List.cons_append, List.dropWhile_append_of_pos hin, List.takeWhile_append_of_pos hin]
    simp

/-- An address of a file is in nobody's name. -/
theorem readFile?_hasCredentials {text path : List Char} {authority : Authority}
    (hread : readFile? text = some (authority, path)) : authority.hasCredentials = false := by
  simp only [readFile?] at hread
  split at hread
  next c d rest =>
    split at hread
    next =>
      split at hread
      next => cases hread; rfl
      next =>
        split at hread
        next => cases hread; rfl
        next =>
          obtain ⟨host, -, hlocated⟩ := Option.bind_eq_some_iff.mp hread
          cases hlocated
          rfl
    next => cases hread; rfl
  next => cases hread; rfl
  next => cases hread; rfl

/-- Without a scheme in front, no login is found, unless the user name is a known scheme of the
web. -/
theorem not_hasCredentials_bare (login : Login)
    (hkind : schemeKind (login.user.toList.map Char.toLower) ≠ .known) {rest : String} {url : Url}
    (hread : ofText? (login.address .bare rest) = some url) : url.hasCredentials = false := by
  obtain ⟨tail, hcleaned⟩ := exists_cleaned_address rest
  obtain ⟨c, password, hpassword, hc⟩ := login.password.exists_eq_cons
  have hclean : cleaned (login.address .bare rest).toList = login.chars ++ '@' :: tail :=
    hcleaned .bare login
  rw [ofText?, ofChars?, hclean] at hread
  rcases readScheme?_login login ('@' :: tail) with hnone | hscheme
  · rw [hnone] at hread
    cases hread
  · have hslash := ne_of_isAlphanum hc '/' (by decide)
    have hfirst : ∃ more, (splitBefore endsPath (login.password.toList ++ '@' :: tail)).1 =
        c :: more := by
      rw [hpassword, List.cons_append, splitBefore,
        List.takeWhile_cons_of_pos (by rw [not_endsPath c hc]; rfl)]
      exact ⟨_, rfl⟩
    obtain ⟨more, hbefore⟩ := hfirst
    rw [hscheme] at hread
    simp only [Option.bind_eq_bind, Option.bind_some, hbefore] at hread
    cases hscheme' : schemeKind (login.user.toList.map Char.toLower) with
    | known => exact absurd hscheme' hkind
    | file =>
        simp only [hscheme'] at hread
        obtain ⟨⟨authority, path⟩, hfile, hurl⟩ := Option.bind_eq_some_iff.mp hread
        cases hurl
        exact readFile?_hasCredentials hfile
    | other =>
        simp only [hscheme'] at hread
        split at hread
        next hstart => exact absurd (List.cons.inj hstart).1 hslash
        next hstart => exact absurd (List.cons.inj hstart).1 hslash
        next => cases hread; rfl

end Reading

end Url

end SearchFeed
