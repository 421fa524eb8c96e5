import NpdPortal.Library.Digest

/-!
# CSRF verification

`make_csrf_token` and `verify_csrf` of `identity/csrf.py`.  The token of a
session is an HMAC of its cookie; a request submits it in a header or in a
form.  `FormRequest.Submits` says which text that is, apart from how the code
finds it.
-/

namespace NpdPortal

/-- The exceptions which leave `verify_csrf`. -/
inductive CsrfError where
  | httpException (statusCode : ℕ) (detail : String)
  | typeError (message : String)
  deriving DecidableEq, Repr

/-- A value of a parsed form. -/
inductive FormEntry where
  | text (value : String)
  | upload (filename : String)
  deriving DecidableEq, Repr

/-- What `verify_csrf` reads of the request besides the cookie and the header. -/
structure FormRequest where
  /-- The `content-type` header. -/
  contentType : Option String
  /-- The fields `await request.form()` yields, in order. -/
  form : List (String × FormEntry)
  deriving DecidableEq, Repr

/-- `make_csrf_token`, with `settings.csrf_secret`. -/
def makeCsrfToken (csrfSecret sessionToken : String) : String :=
  Digest.hex (Digest.hmac csrfSecret.toUTF8.toList ("csrf-v1:" ++ sessionToken).toUTF8.toList)

/-- `hmac.compare_digest` of two strings. -/
def compareDigest (first second : String) : Except CsrfError Bool :=
  if Digest.isAscii first ∧ Digest.isAscii second then .ok (first == second)
  else .error (.typeError "comparing strings with non-ASCII characters is not supported")

namespace FormRequest

/-- `request.headers.get("content-type", "").split(";", 1)[0]`. -/
def mediaType (request : FormRequest) : String :=
  String.ofList ((request.contentType.getD "").toList.takeWhile (· ≠ ';'))

/-- `form.get(name)`: the last field of this name. -/
def field (request : FormRequest) (name : String) : Option FormEntry :=
  (request.form.findRev? fun field => field.1 = name).map (·.2)

/-- The header if there is one, otherwise the text field `csrf_token` of an urlencoded form. -/
def submittedToken (request : FormRequest) (headerToken : Option String) : Option String :=
  match headerToken with
  | some token => some token
  | none =>
      if request.mediaType = "application/x-www-form-urlencoded" then
        match request.field "csrf_token" with
        | some (.text value) => some value
        | _ => none
      else none

end FormRequest

/-- `verify_csrf`. -/
def verifyCsrf (csrfSecret : String) (request : FormRequest)
    (sessionToken headerToken : Option String) : Except CsrfError Unit :=
  match sessionToken with
  | none => .error (.httpException 401 "Authentication required")
  | some sessionToken =>
      match request.submittedToken headerToken with
      | none | some "" => .error (.httpException 403 "CSRF token missing")
      | some submittedToken =>
          match compareDigest submittedToken (makeCsrfToken csrfSecret sessionToken) with
          | .error error => .error error
          | .ok true => .ok ()
          | .ok false => .error (.httpException 403 "Invalid CSRF token")

/-! ## The submitted token -/

/-- The content type of an urlencoded form, with or without parameters. -/
def IsUrlencoded (contentType : String) : Prop :=
  contentType = "application/x-www-form-urlencoded" ∨
    ∃ parameters, contentType = "application/x-www-form-urlencoded" ++ ";" ++ parameters

/-- The request submits this token: the header goes before the form, and of the form only the last
field `csrf_token` counts, if it is a text and the form is urlencoded. -/
inductive FormRequest.Submits (request : FormRequest) : Option String → String → Prop where
  | header (token : String) : request.Submits (some token) token
  | field (token contentType : String) (earlier later : List (String × FormEntry))
      (isType : request.contentType = some contentType) (urlencoded : IsUrlencoded contentType)
      (isField : request.form = earlier ++ ("csrf_token", .text token) :: later)
      (isLast : ∀ field ∈ later, field.1 ≠ "csrf_token") : request.Submits none token

/-- Verification is exact, and a request it refuses is answered 401 without a cookie and 403
with one. -/
structure VerifiesCsrf (csrfSecret : String) (request : FormRequest)
    (sessionToken headerToken : Option String) : Prop where
  accepts : verifyCsrf csrfSecret request sessionToken headerToken = .ok () ↔
    ∃ cookie, sessionToken = some cookie ∧
      request.Submits headerToken (makeCsrfToken csrfSecret cookie)
  refuses : ∀ error, verifyCsrf csrfSecret request sessionToken headerToken = .error error →
    ∃ detail, error = .httpException (if sessionToken = none then 401 else 403) detail

section Submitted

variable {request : FormRequest} {headerToken : Option String} {token : String}

/-- The letters before the first separator. -/
theorem takeWhile_ne_eq_iff {separator : Char} {letters word : List Char}
    (plain : separator ∉ word) : letters.takeWhile (· ≠ separator) = word ↔
      letters = word ∨ ∃ rest, letters = word ++ separator :: rest := by
  induction letters generalizing word with
  | nil => simp [eq_comm]
  | cons head tail ih =>
      by_cases ends : head = separator
      · subst ends
        cases word with
        | nil => simp
        | cons first others =>
            have differs : head ≠ first := fun same => plain (same ▸ List.mem_cons_self)
            simp [differs]
      · cases word with
        | nil => simp [ends]
        | cons first others =>
            have plainRest : separator ∉ others :=
              fun inRest => plain (List.mem_cons_of_mem _ inRest)
            rw [List.takeWhile_cons_of_pos (by simpa using ends)]
            simp only [List.cons_append, List.cons.injEq, ih plainRest, and_or_left,
              exists_and_left]

theorem FormRequest.mediaType_eq_iff : request.mediaType = "application/x-www-form-urlencoded" ↔
    ∃ contentType, request.contentType = some contentType ∧ IsUrlencoded contentType := by
  have letters : request.mediaType = "application/x-www-form-urlencoded" ↔
      (request.contentType.getD "").toList.takeWhile (· ≠ ';') =
        "application/x-www-form-urlencoded".toList := by
    rw [FormRequest.mediaType, ← String.toList_inj, String.toList_ofList]
  have semicolon : ";".toList = [';'] := rfl
  rw [letters, takeWhile_ne_eq_iff (by decide)]
  cases request.contentType with
  | none => simp
  | some contentType =>
      simp only [Option.getD_some, Option.some.injEq, exists_eq_left', IsUrlencoded]
      refine or_congr String.toList_inj ⟨?_, ?_⟩
      · rintro ⟨rest, isRest⟩
        refine ⟨String.ofList rest, String.toList_inj.mp ?_⟩
        simp only [isRest, String.toList_append, String.toList_ofList, List.append_assoc, semicolon]
        rfl
      · rintro ⟨parameters, rfl⟩
        refine ⟨parameters.toList, ?_⟩
        simp only [String.toList_append, List.append_assoc, semicolon]
        rfl

theorem FormRequest.field_eq_some_iff {name : String} {entry : FormEntry} :
    request.field name = some entry ↔ ∃ earlier later,
      request.form = earlier ++ (name, entry) :: later ∧ ∀ field ∈ later, field.1 ≠ name := by
  simp only [FormRequest.field, List.findRev?_eq_find?_reverse, Option.map_eq_some_iff,
    List.find?_eq_some_iff_append]
  constructor
  · rintro ⟨⟨own, _⟩, ⟨isName, front, back, reversed, others⟩, rfl⟩
    obtain rfl : own = name := by simpa using isName
    refine ⟨back.reverse, front.reverse, ?_, ?_⟩
    · rw [← List.reverse_reverse request.form, reversed]
      simp
    · intro field fieldMem
      simpa using others field (List.mem_reverse.mp fieldMem)
  · rintro ⟨earlier, later, isField, isLast⟩
    refine ⟨(name, entry), ⟨by simp, later.reverse, earlier.reverse, by simp [isField], ?_⟩, rfl⟩
    intro field fieldMem
    simpa using isLast field (List.mem_reverse.mp fieldMem)

/-- The code finds the token that is submitted. -/
theorem FormRequest.submittedToken_eq_some_iff :
    request.submittedToken headerToken = some token ↔ request.Submits headerToken token := by
  cases headerToken with
  | some header =>
      refine ⟨?_, ?_⟩
      · rintro ⟨⟩
        exact .header token
      · rintro ⟨⟩
        rfl
  | none =>
      simp only [FormRequest.submittedToken]
      constructor
      · intro submits
        split at submits
        · rename_i urlencoded
          rcases mediaType_eq_iff.mp urlencoded with ⟨contentType, isType, isUrlencoded⟩
          split at submits
          · rename_i value isField
            cases submits
            rcases field_eq_some_iff.mp isField with ⟨earlier, later, inForm, isLast⟩
            exact .field token contentType earlier later isType isUrlencoded inForm isLast
          · cases submits
        · cases submits
      · intro submits
        cases submits with
        | field _ contentType earlier later isType urlencoded isField isLast =>
            rw [if_pos (mediaType_eq_iff.mpr ⟨contentType, isType, urlencoded⟩),
              field_eq_some_iff.mpr ⟨earlier, later, isField, isLast⟩]

theorem FormRequest.Submits.unique {other : String} (isToken : request.Submits headerToken token)
    (isOther : request.Submits headerToken other) : token = other :=
  Option.some.inj ((submittedToken_eq_some_iff.mpr isToken).symm.trans
    (submittedToken_eq_some_iff.mpr isOther))

end Submitted

/-! ## Verification -/

section Verification

variable {csrfSecret : String} {request : FormRequest} {sessionToken headerToken : Option String}

theorem isAscii_makeCsrfToken (csrfSecret sessionToken : String) :
    Digest.isAscii (makeCsrfToken csrfSecret sessionToken) = true :=
  Digest.isAscii_hex _

/-- A token has 64 digits. -/
theorem makeCsrfToken_ne_empty (csrfSecret sessionToken : String) :
    makeCsrfToken csrfSecret sessionToken ≠ "" := by
  intro empty
  have length := Digest.length_hex (Digest.hmac csrfSecret.toUTF8.toList
    ("csrf-v1:" ++ sessionToken).toUTF8.toList)
  rw [← makeCsrfToken, empty, Digest.hmac, Digest.length_sha256] at length
  simp at length

/-- The comparison with a token of a session. -/
theorem compareDigest_token (submitted cookie : String) :
    compareDigest submitted (makeCsrfToken csrfSecret cookie) =
      if Digest.isAscii submitted then .ok (submitted == makeCsrfToken csrfSecret cookie)
      else .error (.typeError "comparing strings with non-ASCII characters is not supported") := by
  simp [compareDigest, isAscii_makeCsrfToken]

/-- A request with a cookie and a token is decided by the comparison. -/
theorem verifyCsrf_submitted (csrfSecret cookie : String) {submitted : String}
    (submits : request.Submits headerToken submitted) (filled : submitted ≠ "") :
    verifyCsrf csrfSecret request (some cookie) headerToken =
      if Digest.isAscii submitted then
        if submitted = makeCsrfToken csrfSecret cookie then .ok ()
        else .error (.httpException 403 "Invalid CSRF token")
      else .error (.typeError "comparing strings with non-ASCII characters is not supported") := by
  unfold verifyCsrf
  simp only [FormRequest.submittedToken_eq_some_iff.mpr submits, compareDigest_token]
  by_cases ascii : Digest.isAscii submitted
  · rw [if_pos ascii, if_pos ascii]
    by_cases equal : submitted = makeCsrfToken csrfSecret cookie
    · rw [if_pos equal, beq_iff_eq.mpr equal]
    · rw [if_neg equal, beq_eq_false_iff_ne.mpr equal]
  · rw [if_neg ascii, if_neg ascii]

/-- A request with a cookie and without a token is refused. -/
theorem verifyCsrf_missing (csrfSecret cookie : String)
    (missing : ∀ submitted, request.Submits headerToken submitted → submitted = "") :
    verifyCsrf csrfSecret request (some cookie) headerToken =
      .error (.httpException 403 "CSRF token missing") := by
  unfold verifyCsrf
  cases submits : request.submittedToken headerToken with
  | none => rfl
  | some submitted =>
      simp [missing submitted (FormRequest.submittedToken_eq_some_iff.mp submits)]

/-- Verification keeps its promise exactly when it compares no token with other characters than
ASCII: there is no cookie, or the submitted token, if any, is ASCII. -/
theorem verifiesCsrf_iff (csrfSecret : String) (request : FormRequest)
    (sessionToken headerToken : Option String) :
    VerifiesCsrf csrfSecret request sessionToken headerToken ↔
      sessionToken = none ∨
        ∀ submitted, request.Submits headerToken submitted → Digest.isAscii submitted = true := by
  cases sessionToken with
  | none =>
      refine ⟨fun _ => .inl rfl, fun _ => ⟨?_, ?_⟩⟩
      · simp [verifyCsrf]
      · rintro error ⟨⟩
        exact ⟨_, rfl⟩
  | some cookie =>
      simp only [reduceCtorEq, false_or]
      by_cases filled : ∃ submitted, request.Submits headerToken submitted ∧ submitted ≠ ""
      · rcases filled with ⟨submitted, submits, notEmpty⟩
        have verified := verifyCsrf_submitted csrfSecret cookie submits notEmpty
        by_cases ascii : Digest.isAscii submitted
        · rw [if_pos ascii] at verified
          refine ⟨fun _ other isOther => ?_, fun _ => ⟨?_, ?_⟩⟩
          · rw [isOther.unique submits]
            exact ascii
          · rw [verified]
            constructor
            · intro accepted
              split at accepted
              · rename_i equal
                exact ⟨cookie, rfl, equal ▸ submits⟩
              · cases accepted
            · rintro ⟨_, ⟨⟩, isToken⟩
              rw [if_pos (submits.unique isToken)]
          · intro error raised
            rw [verified] at raised
            split at raised
            · cases raised
            · cases raised
              exact ⟨_, rfl⟩
        · rw [if_neg ascii] at verified
          refine ⟨fun verifies => ?_, fun allAscii => absurd (allAscii submitted submits) ascii⟩
          rcases verifies.refuses _ verified with ⟨_, impossible⟩
          cases impossible
      · have missing : ∀ submitted, request.Submits headerToken submitted → submitted = "" := by
          intro submitted submits
          apply Decidable.byContradiction
          intro notEmpty
          exact filled ⟨submitted, submits, notEmpty⟩
        have verified := verifyCsrf_missing csrfSecret cookie missing
        refine ⟨fun _ submitted submits => ?_, fun _ => ⟨?_, ?_⟩⟩
        · rw [missing submitted submits]
          rfl
        · rw [verified]
          constructor
          · intro accepted
            cases accepted
          · rintro ⟨_, _, submits⟩
            exact absurd (missing _ submits) (makeCsrfToken_ne_empty csrfSecret _)
        · intro error raised
          rw [verified] at raised
          cases raised
          exact ⟨_, rfl⟩

/-- A token that is not ASCII is not refused but raises. -/
theorem verifiesCsrf_not_nonAscii :
    ¬∀ csrfSecret request sessionToken headerToken,
      VerifiesCsrf csrfSecret request sessionToken headerToken := by
  intro always
  have raised : verifyCsrf "secret" ⟨none, []⟩ (some "session") (some "é") =
      .error (.typeError "comparing strings with non-ASCII characters is not supported") := by
    have notAscii : Digest.isAscii "é" = false := by decide
    have submits : (FormRequest.mk none []).Submits (some "é") "é" := .header "é"
    rw [verifyCsrf_submitted "secret" "session" submits (by decide), if_neg (by simp [notAscii])]
  rcases (always "secret" ⟨none, []⟩ (some "session") (some "é")).refuses _ raised with
    ⟨_, impossible⟩
  cases impossible

end Verification

end NpdPortal
