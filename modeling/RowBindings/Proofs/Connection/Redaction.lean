import RowBindings.Connection.Settings
import RowBindings.Proofs.Text.Cut
import RowBindings.Unicode.Blank

/-!
# What redacted settings show

The password in the login of a URL does not matter for the redacted text, whatever characters are in
it: the text is cut in front of it at characters that neither the scheme nor the user has, and
behind it at the last at sign. A password at any other place, as a parameter of the URL or in a list
of pairs, is shown, unless it happens to stand where a login could: after a colon behind the scheme,
and before an at sign.
-/

namespace RowBindings.Connection.Settings

open RowBindings.Text RowBindings.Unicode

variable {scheme user hidden login host rest front back : List Char}

/-! ## The parts of a URL -/

/-- What ends the scheme of a URL. -/
def schemeEnd : List Char := [':', '/', '/']

theorem schemeEnd_ne_nil : schemeEnd ≠ [] := List.cons_ne_nil _ _

/-- Of two parts of it the first one has the colon, if it is not empty. -/
theorem exists_slashes_of_schemeEnd_eq {start more : List Char} (hstart : start ≠ [])
    (heq : schemeEnd = start ++ more) :
    ∃ slashes, start = ':' :: slashes ∧ ['/', '/'] = slashes ++ more := by
  obtain ⟨c, slashes, rfl⟩ := List.exists_cons_of_ne_nil hstart
  obtain ⟨hc, hslashes⟩ := List.cons.inj heq
  exact ⟨slashes, by rw [← hc], hslashes⟩

/-- The end of the scheme does not start in the scheme. -/
theorem not_schemeEnd_infix_append (h : ¬ schemeEnd <:+: scheme) :
    ¬ schemeEnd <:+: scheme ++ schemeEnd.dropLast := by
  intro hinside
  rcases List.infix_append_iff_ne_nil.1 hinside with
    hscheme | hend | ⟨start, more, hstart, hmore, heq, -, hprefix⟩
  · exact h hscheme
  · exact absurd hend.length_le (by decide)
  · obtain ⟨c, more, rfl⟩ := List.exists_cons_of_ne_nil hmore
    obtain rfl : c = ':' := (List.cons_prefix_cons.1 hprefix).1
    obtain ⟨slashes, -, hslashes⟩ := exists_slashes_of_schemeEnd_eq hstart heq
    have hcolon : ':' ∈ ['/', '/'] := by
      rw [hslashes]
      exact List.mem_append_right slashes List.mem_cons_self
    exact absurd hcolon (by decide)

theorem cutAtFirst?_schemeEnd_append (h : ¬ schemeEnd <:+: scheme) (rest : List Char) :
    cutAtFirst? schemeEnd (scheme ++ schemeEnd ++ rest) = some (scheme, rest) :=
  cutAtFirst?_append schemeEnd_ne_nil (not_schemeEnd_infix_append h)

/-- A text in which a scheme ends has a first place where one does. -/
theorem exists_eq_append_schemeEnd {cs : List Char} (h : schemeEnd <:+: cs) :
    ∃ scheme rest, cs = scheme ++ schemeEnd ++ rest ∧ ¬ schemeEnd <:+: scheme := by
  obtain ⟨scheme, rest, hcut⟩ := exists_cutAtFirst?_of_infix schemeEnd_ne_nil h
  obtain ⟨heq, hfirst⟩ := eq_append_of_cutAtFirst? schemeEnd_ne_nil hcut
  exact ⟨scheme, rest, heq, fun hinside => hfirst (hinside.trans (List.infix_append' [] _ _))⟩

/-- A login with the password masked. -/
def maskLogin (login : List Char) : List Char :=
  match cutAtFirst? [':'] login with
  | some (user, _) => user ++ ':' :: mask.toList
  | none => login

theorem maskLogin_append (h : ':' ∉ user) :
    maskLogin (user ++ ':' :: hidden) = user ++ ':' :: mask.toList := by
  rw [maskLogin, cutAtFirst?_singleton_append h]

theorem maskLogin_of_notMem (h : ':' ∉ login) : maskLogin login = login := by
  rw [maskLogin, cutAtFirst?_singleton_of_notMem h]

/-- What follows the scheme, with the password of its login masked. -/
def maskRest (rest : List Char) : List Char :=
  match cutAtLast? '@' rest with
  | some (login, host) => maskLogin login ++ '@' :: host
  | none => rest

theorem maskRest_append (h : '@' ∉ host) :
    maskRest (login ++ '@' :: host) = maskLogin login ++ '@' :: host := by
  rw [maskRest, cutAtLast?_append h]

theorem maskRest_of_notMem (h : '@' ∉ rest) : maskRest rest = rest := by
  rw [maskRest, cutAtLast?_of_notMem h]

theorem maskUrl_append (h : ¬ schemeEnd <:+: scheme) (rest : List Char) :
    maskUrl (scheme ++ schemeEnd ++ rest) = scheme ++ schemeEnd ++ maskRest rest := by
  have hscheme := cutAtFirst?_schemeEnd_append h rest
  unfold maskUrl
  rw [show "://".toList = schemeEnd from rfl, hscheme]
  by_cases hat : '@' ∈ rest
  · obtain ⟨login, host, rfl, hhost⟩ := exists_eq_append_cons_of_mem hat
    have hlogin : cutAtLast? '@' (login ++ '@' :: host) = some (login, host) :=
      cutAtLast?_append hhost
    rw [maskRest_append hhost]
    simp only [hlogin, Option.bind_eq_bind, Option.bind_some]
    by_cases hcolon : ':' ∈ login
    · obtain ⟨user, hidden, rfl, huser⟩ := List.eq_append_cons_of_mem hcolon
      have huser' : cutAtFirst? [':'] (user ++ ':' :: hidden) = some (user, hidden) :=
        cutAtFirst?_singleton_append huser
      rw [maskLogin_append huser, huser']
      simp
    · rw [maskLogin_of_notMem hcolon, cutAtFirst?_singleton_of_notMem hcolon]
      rfl
  · rw [maskRest_of_notMem hat]
    simp only [cutAtLast?_of_notMem hat, Option.bind_eq_bind, Option.bind_some]
    rfl

theorem maskUrl_of_not_infix {cs : List Char} (h : ¬ schemeEnd <:+: cs) : maskUrl cs = cs := by
  unfold maskUrl
  rw [show "://".toList = schemeEnd from rfl, (cutAtFirst?_eq_none_iff schemeEnd_ne_nil).2 h]
  rfl

theorem toList_redacted_url (text : String) :
    (url text).redacted.toList = maskUrl text.toList := by
  rw [redacted, String.toList_ofList]

/-! ## Passwords in a login -/

/-- A URL with a user and a password in its login. -/
def loginUrl (scheme user password rest : String) : String :=
  scheme ++ "://" ++ user ++ ":" ++ password ++ "@" ++ rest

theorem toList_loginUrl (scheme user password rest : String) :
    (loginUrl scheme user password rest).toList
      = scheme.toList ++ schemeEnd
        ++ (user.toList ++ ':' :: password.toList ++ '@' :: rest.toList) := by
  simp [loginUrl, schemeEnd]

/-- Whatever is hidden between the user and the last at sign, the mask takes its place. -/
theorem maskUrl_login (hscheme : ¬ schemeEnd <:+: scheme) (huser : ':' ∉ user)
    (hhost : '@' ∉ host) (hidden : List Char) :
    maskUrl (scheme ++ schemeEnd ++ (user ++ ':' :: hidden ++ '@' :: host))
      = scheme ++ schemeEnd ++ (user ++ ':' :: mask.toList ++ '@' :: host) := by
  rw [maskUrl_append hscheme, maskRest_append hhost, maskLogin_append huser]

/-- What stays of the text behind a password is what stands behind its last at sign. -/
theorem exists_host_maskUrl (hscheme : ¬ schemeEnd <:+: scheme) (huser : ':' ∉ user)
    (rest : List Char) :
    ∃ host, host <:+ rest ∧ ('@' ∉ rest → host = rest) ∧
      ∀ password, maskUrl (scheme ++ schemeEnd ++ (user ++ ':' :: password ++ '@' :: rest))
        = scheme ++ schemeEnd ++ (user ++ ':' :: mask.toList ++ '@' :: host) := by
  by_cases hat : '@' ∈ rest
  · obtain ⟨between, host, rfl, hhost⟩ := exists_eq_append_cons_of_mem hat
    refine ⟨host, ⟨between ++ ['@'], by simp⟩, fun hnone => absurd hat hnone, fun password => ?_⟩
    have hlast := maskUrl_login hscheme huser hhost (password ++ '@' :: between)
    rw [← hlast]
    simp
  · exact ⟨rest, List.suffix_rfl, fun _ => rfl, maskUrl_login hscheme huser hat⟩

/-- The password of a login does not matter for the redacted text, whatever characters are in it.
The scheme and the user are kept, and of the rest what stands behind its last at sign, which is all
of it where it has none. A URL without an at sign behind its scheme is left as it is. -/
theorem redacted_loginUrl {scheme user rest : String} (hscheme : ¬ schemeEnd <:+: scheme.toList)
    (huser : ':' ∉ user.toList) :
    (∀ p q : String, (url (loginUrl scheme user p rest)).redacted
      = (url (loginUrl scheme user q rest)).redacted)
    ∧ (∃ host : String, host.toList <:+ rest.toList ∧
      ∀ p : String, (url (loginUrl scheme user p rest)).redacted = loginUrl scheme user mask host)
    ∧ ('@' ∉ rest.toList →
      (∀ p : String, (url (loginUrl scheme user p rest)).redacted = loginUrl scheme user mask rest)
      ∧ (url (scheme ++ "://" ++ rest)).redacted = scheme ++ "://" ++ rest) := by
  obtain ⟨host, hsuffix, hall, hmasked⟩ := exists_host_maskUrl hscheme huser rest.toList
  have hredacted (p : String) : (url (loginUrl scheme user p rest)).redacted
      = loginUrl scheme user mask (String.ofList host) := by
    rw [← String.toList_inj, toList_redacted_url, toList_loginUrl, toList_loginUrl,
      String.toList_ofList, hmasked]
  refine ⟨fun p q => (hredacted p).trans (hredacted q).symm,
    ⟨String.ofList host, ?_, hredacted⟩, ?_⟩
  · rwa [String.toList_ofList]
  · intro hat
    refine ⟨fun p => ?_, ?_⟩
    · rw [hredacted p, hall hat, String.ofList_toList]
    · rw [← String.toList_inj, toList_redacted_url, String.toList_append, String.toList_append]
      exact (maskUrl_append hscheme rest.toList).trans (by rw [maskRest_of_notMem hat]; rfl)

/-- A password with each of the characters that separate the parts of a URL. -/
theorem redacted_loginUrl_separators :
    ¬ schemeEnd <:+: "postgres".toList ∧ ':' ∉ "app".toList
    ∧ (url "postgres://app:s3:cr@t://x/y@db:5432/app").redacted
      = "postgres://app:***@db:5432/app" := by
  have hscheme : ¬ schemeEnd <:+: "postgres".toList := by decide
  have huser : ':' ∉ "app".toList := by decide
  have hrest : '@' ∉ "db:5432/app".toList := by decide
  have hmasked := ((redacted_loginUrl hscheme huser).2.2 hrest).1 "s3:cr@t://x/y"
  exact ⟨hscheme, huser, hmasked⟩

/-! ## Passwords elsewhere -/

/-- What stands before and behind a password that is in no login. -/
inductive IsPasswordPlace : String → String → Prop
  /-- The password is a parameter of a URL: parameters come behind a question mark, with ampersands
  between them. -/
  | parameter {scheme address others after : String}
    (hothers : others = "" ∨ ∃ more, others = more ++ "&")
    (hafter : after = "" ∨ ∃ more, after = "&" ++ more) :
    IsPasswordPlace (scheme ++ "://" ++ address ++ "?" ++ others ++ "password=") after
  /-- The password is in a list of pairs, with white space between them. -/
  | pair {others after : String} (hothers : ∀ c ∈ others.toList.getLast?, isBlank c = true)
    (hafter : ∀ c ∈ after.toList.head?, isBlank c = true) :
    IsPasswordPlace (others ++ "password=") after

theorem IsPasswordPlace.getLast? {before after : String} (h : IsPasswordPlace before after) :
    before.toList.getLast? = some '=' := by
  have hpassword (start : String) : (start ++ "password=").toList.getLast? = some '=' := by
    rw [String.toList_append, List.getLast?_append_of_ne_nil _ (by decide)]
    rfl
  cases h with
  | parameter => exact hpassword _
  | pair => exact hpassword _

/-- A place is taken for one in a login: a colon stands before it, behind the first end of a scheme,
and an at sign behind it. -/
def IsTakenForLogin (front back : List Char) : Prop :=
  (∃ scheme rest, front = scheme ++ schemeEnd ++ rest ∧ ¬ schemeEnd <:+: scheme ∧ ':' ∈ rest)
  ∧ '@' ∈ back

/-- A text without the characters that end the user and the login. -/
def IsPlainWord (word : List Char) : Prop :=
  ':' ∉ word ∧ '@' ∉ word

/-- Whatever plain word stands at a place, what is made of the text shows it. -/
def ShowsWord (f : List Char → List Char) (front back : List Char) : Prop :=
  ∃ before after, ∀ word, IsPlainWord word → f (front ++ word ++ back) = before ++ word ++ after

/-- In a login a word is shown that no colon stands before. -/
theorem showsWord_maskLogin (hfront : ':' ∉ front) :
    ShowsWord maskLogin front back := by
  by_cases hback : ':' ∈ back
  · obtain ⟨more, hidden, rfl, hmore⟩ := List.eq_append_cons_of_mem hback
    refine ⟨front, more ++ ':' :: mask.toList, fun word hword => ?_⟩
    have huser : ':' ∉ front ++ word ++ more := by
      simp only [List.mem_append, not_or]
      exact ⟨⟨hfront, hword.1⟩, hmore⟩
    rw [← List.append_assoc, maskLogin_append huser, List.append_assoc]
  · refine ⟨front, back, fun word hword => maskLogin_of_notMem ?_⟩
    simp only [List.mem_append, not_or]
    exact ⟨⟨hfront, hword.1⟩, hback⟩

/-- Behind a scheme a word is shown, unless a colon stands before it and an at sign behind it. -/
theorem showsWord_maskRest (h : ':' ∈ front → '@' ∉ back) :
    ShowsWord maskRest front back := by
  by_cases hback : '@' ∈ back
  · -- the login goes on behind the word
    obtain ⟨between, host, rfl, hhost⟩ := exists_eq_append_cons_of_mem hback
    obtain ⟨before, after, hshown⟩ : ShowsWord maskLogin front between :=
      showsWord_maskLogin fun hcolon => h hcolon hback
    refine ⟨before, after ++ '@' :: host, fun word hword => ?_⟩
    rw [← List.append_assoc, maskRest_append hhost, hshown word hword, List.append_assoc]
  · by_cases hfront : '@' ∈ front
    · -- the login ends before the word
      obtain ⟨login, host, rfl, hhost⟩ := exists_eq_append_cons_of_mem hfront
      refine ⟨maskLogin login ++ '@' :: host, back, fun word hword => ?_⟩
      have hrest : '@' ∉ host ++ word ++ back := by
        simp only [List.mem_append, not_or]
        exact ⟨⟨hhost, hword.2⟩, hback⟩
      have hmasked : maskRest (login ++ '@' :: (host ++ word ++ back)) = _ := maskRest_append hrest
      simpa using hmasked
    · refine ⟨front, back, fun word hword => maskRest_of_notMem ?_⟩
      simp only [List.mem_append, not_or]
      exact ⟨⟨hfront, hword.2⟩, hback⟩

/-- Around a word without a colon, and behind a sign of equality, a scheme ends before or behind. -/
theorem schemeEnd_infix_of_around {word : List Char} (hlast : front.getLast? = some '=')
    (hword : ':' ∉ word) (h : schemeEnd <:+: front ++ word ++ back) :
    schemeEnd <:+: front ∨ schemeEnd <:+: back := by
  rw [List.append_assoc, List.infix_append_iff_ne_nil] at h
  rcases h with hfront | hlater | ⟨start, more, hstart, -, heq, hsuffix, -⟩
  · exact Or.inl hfront
  · rcases List.infix_append_iff_ne_nil.1 hlater with
      hinside | hback | ⟨start, more, hstart, -, heq, hsuffix, -⟩
    · exact absurd (hinside.subset (by decide : ':' ∈ schemeEnd)) hword
    · exact Or.inr hback
    · obtain ⟨slashes, rfl, -⟩ := exists_slashes_of_schemeEnd_eq hstart heq
      exact absurd (hsuffix.subset List.mem_cons_self) hword
  · -- its start would end with the sign
    obtain ⟨_, rfl⟩ := hsuffix
    have hsign := hlast
    rw [List.getLast?_append_of_ne_nil _ hstart] at hsign
    have hmem : '=' ∈ schemeEnd := by
      rw [heq]
      exact List.mem_append_left more (List.mem_of_getLast? hsign)
    exact absurd hmem (by decide)

/-- A word behind a sign of equality is shown where its place is not taken for one in a login. -/
theorem showsWord_maskUrl (hlast : front.getLast? = some '=') (h : ¬ IsTakenForLogin front back) :
    ShowsWord maskUrl front back := by
  by_cases hfront : schemeEnd <:+: front
  · obtain ⟨scheme, rest, rfl, hscheme⟩ := exists_eq_append_schemeEnd hfront
    obtain ⟨before, after, hshown⟩ : ShowsWord maskRest rest back :=
      showsWord_maskRest fun hcolon hat => h ⟨⟨scheme, rest, rfl, hscheme, hcolon⟩, hat⟩
    refine ⟨scheme ++ schemeEnd ++ before, after, fun word hword => ?_⟩
    have hmasked := maskUrl_append hscheme (rest ++ word ++ back)
    rw [hshown word hword] at hmasked
    simpa using hmasked
  · by_cases hback : schemeEnd <:+: back
    · -- the word is in what is taken for the scheme
      obtain ⟨scheme, rest, rfl, hscheme⟩ := exists_eq_append_schemeEnd hback
      refine ⟨front, scheme ++ schemeEnd ++ maskRest rest, fun word hword => ?_⟩
      have hfirst : ¬ schemeEnd <:+: front ++ word ++ scheme := fun hinside =>
        (schemeEnd_infix_of_around hlast hword.1 hinside).elim hfront hscheme
      have hmasked := maskUrl_append hfirst rest
      simpa using hmasked
    · exact ⟨front, back, fun word hword => maskUrl_of_not_infix fun hinside =>
        (schemeEnd_infix_of_around hlast hword.1 hinside).elim hfront hback⟩

/-- A text does not matter at a place that is taken for one in a login. -/
theorem maskUrl_eq_of_isTakenForLogin (h : IsTakenForLogin front back) (p q : List Char) :
    maskUrl (front ++ p ++ back) = maskUrl (front ++ q ++ back) := by
  obtain ⟨⟨scheme, rest, rfl, hscheme, hcolon⟩, hat⟩ := h
  obtain ⟨user, hidden, rfl, huser⟩ := List.eq_append_cons_of_mem hcolon
  obtain ⟨between, host, rfl, hhost⟩ := exists_eq_append_cons_of_mem hat
  have hmasked (word : List Char) :=
    maskUrl_login hscheme huser hhost (hidden ++ word ++ between)
  simpa using (hmasked p).trans (hmasked q).symm

/-- A password that is in no login is shown by the redacted text, so that the texts for two of them
differ, unless its place is taken for one in a login; then it does not matter. -/
theorem redacted_eq_iff_of_isPasswordPlace {before after p q : String}
    (hplace : IsPasswordPlace before after) (hp : IsPlainWord p.toList)
    (hq : IsPlainWord q.toList) :
    ((url (before ++ p ++ after)).redacted = (url (before ++ q ++ after)).redacted
      ↔ p = q ∨ IsTakenForLogin before.toList after.toList)
    ∧ (¬ IsTakenForLogin before.toList after.toList →
      p.toList <:+: (url (before ++ p ++ after)).redacted.toList) := by
  rw [← String.toList_inj, toList_redacted_url, toList_redacted_url]
  simp only [String.toList_append]
  by_cases htaken : IsTakenForLogin before.toList after.toList
  · exact ⟨iff_of_true (maskUrl_eq_of_isTakenForLogin htaken _ _) (Or.inr htaken),
      fun hnot => absurd htaken hnot⟩
  · obtain ⟨shownBefore, shownAfter, hshown⟩ := showsWord_maskUrl hplace.getLast? htaken
    refine ⟨?_, fun _ => ?_⟩
    · rw [hshown _ hp, hshown _ hq, List.append_left_inj, List.append_right_inj, String.toList_inj]
      exact ⟨Or.inl, fun h => h.resolve_right htaken⟩
    · rw [hshown _ hp]
      exact ⟨shownBefore, shownAfter, rfl⟩

theorem isPasswordPlace_pair : IsPasswordPlace "host=db user=app password=" " dbname=app" := by
  refine @IsPasswordPlace.pair "host=db user=app " " dbname=app" ?_ ?_
  · rintro c ⟨⟩
    decide
  · rintro c ⟨⟩
    decide

theorem isPasswordPlace_parameter : IsPasswordPlace "postgres://app@db/app?password=" "" :=
  @IsPasswordPlace.parameter "postgres" "app@db/app" "" "" (Or.inl rfl) (Or.inl rfl)

/-- Of two passwords in a list of pairs each is shown. -/
theorem redacted_eq_iff_of_isPasswordPlace_pair :
    IsPasswordPlace "host=db user=app password=" " dbname=app"
    ∧ IsPlainWord "secret".toList ∧ IsPlainWord "hidden".toList
    ∧ (url "host=db user=app password=secret dbname=app").redacted
      ≠ (url "host=db user=app password=hidden dbname=app").redacted
    ∧ "secret".toList <:+: (url "host=db user=app password=secret dbname=app").redacted.toList := by
  have hsecret : IsPlainWord "secret".toList := ⟨by decide, by decide⟩
  have hhidden : IsPlainWord "hidden".toList := ⟨by decide, by decide⟩
  have hat : '@' ∉ " dbname=app".toList := by decide
  obtain ⟨hiff, hshown⟩ :=
    redacted_eq_iff_of_isPasswordPlace isPasswordPlace_pair hsecret hhidden
  refine ⟨isPasswordPlace_pair, hsecret, hhidden, fun heq => ?_, hshown fun htaken => hat htaken.2⟩
  rcases hiff.1 heq with hsame | htaken
  · exact absurd hsame (by decide)
  · exact hat htaken.2

/-- Two passwords in a list of pairs, and two as a parameter of a URL, whose redacted texts
differ. -/
theorem redacted_shows_password :
    IsPasswordPlace "host=db user=app password=" " dbname=app"
    ∧ (url "host=db user=app password=secret dbname=app").redacted
      ≠ (url "host=db user=app password=hidden dbname=app").redacted
    ∧ IsPasswordPlace "postgres://app@db/app?password=" ""
    ∧ (url "postgres://app@db/app?password=secret").redacted
      ≠ (url "postgres://app@db/app?password=hidden").redacted :=
  ⟨isPasswordPlace_pair, by decide, isPasswordPlace_parameter, by decide⟩

end RowBindings.Connection.Settings
