import SlimA2a.Dict

/-! # Caller identity

The verified identity of a SlimRPC caller (`identity.py`).

A session context carries what SLIM verified about the peer, the subject and the issuer of its
token, beside the metadata that the peer wrote itself.  `userFromContext` looks at the verified part
only. Absent and empty claims count as the same (`orNone`), and up to that the user determines the
verified claims and is determined by them: `userFromContext_congr`, `userFromContext_inj`. -/

namespace SlimA2a

/-- `slim_bindings.Context`: the verified identity of the peer, and the metadata the peer wrote. -/
structure Context where
  peerSubject : Option String
  peerIssuer : Option String
  metadata : Dict String String
deriving DecidableEq

/-- A caller authenticated by SLIM. -/
structure SlimUser where
  subject : String
  issuer : Option String
deriving DecidableEq

namespace SlimUser

def isAuthenticated (_ : SlimUser) : Bool := true

def userName (user : SlimUser) : String := user.subject

end SlimUser

/-- A user; `other` is a user that an application's own `CallContextBuilder` makes. -/
inductive User where
  | unauthenticatedUser
  | slimUser (user : SlimUser)
  | other (isAuthenticated : Bool) (userName : String)
deriving DecidableEq

namespace User

def isAuthenticated : User → Bool
  | unauthenticatedUser => false
  | slimUser user => user.isAuthenticated
  | other isAuthenticated _ => isAuthenticated

def userName : User → String
  | unauthenticatedUser => ""
  | slimUser user => user.userName
  | other _ userName => userName

end User

/-- `value or None` for an optional string: the empty string is falsy. -/
def orNone : Option String → Option String
  | none => none
  | some value => if value = "" then none else some value

/-- The caller of a SlimRPC request, from its verified session identity. -/
def userFromContext (context : Context) : User :=
  match orNone context.peerSubject with
  | none => .unauthenticatedUser
  | some subject => .slimUser ⟨subject, orNone context.peerIssuer⟩

/-! ### What the user says about the session -/

theorem orNone_eq_some {claim : Option String} {value : String} :
    orNone claim = some value ↔ claim = some value ∧ value ≠ "" := by
  cases claim with
  | none => simp [orNone]
  | some s =>
      by_cases hs : s = ""
      · simp only [orNone, hs, if_true, reduceCtorEq, Option.some.injEq, false_iff, not_and,
          not_not]
        exact fun h => h.symm
      · simp only [orNone, hs, if_false, Option.some.injEq]
        constructor
        · rintro rfl
          exact ⟨rfl, hs⟩
        · exact fun h => h.1

/-- Contexts with the same verified claims have the same user. -/
theorem userFromContext_congr {c₁ c₂ : Context}
    (hsubject : orNone c₁.peerSubject = orNone c₂.peerSubject)
    (hissuer : orNone c₁.peerIssuer = orNone c₂.peerIssuer) :
    userFromContext c₁ = userFromContext c₂ := by
  unfold userFromContext
  rw [hsubject, hissuer]

theorem isAuthenticated_userFromContext (context : Context) :
    (userFromContext context).isAuthenticated = true ↔
      ∃ subject, context.peerSubject = some subject ∧ subject ≠ "" := by
  simp only [← orNone_eq_some]
  unfold userFromContext
  cases orNone context.peerSubject with
  | none => simp [User.isAuthenticated]
  | some subject => simp [User.isAuthenticated, SlimUser.isAuthenticated]

/-- An authenticated user determines the verified claims of the session. -/
theorem userFromContext_inj {c₁ c₂ : Context}
    (hauth : (userFromContext c₁).isAuthenticated = true)
    (h : userFromContext c₁ = userFromContext c₂) :
    orNone c₁.peerSubject = orNone c₂.peerSubject ∧
      orNone c₁.peerIssuer = orNone c₂.peerIssuer := by
  unfold userFromContext at h hauth
  cases h₁ : orNone c₁.peerSubject with
  | none => simp [h₁, User.isAuthenticated] at hauth
  | some s₁ =>
      cases h₂ : orNone c₂.peerSubject with
      | none => simp [h₁, h₂] at h
      | some s₂ => simpa [h₁, h₂] using h

/-- An authenticated caller always has a name. -/
theorem userName_userFromContext_ne_empty {context : Context}
    (hauth : (userFromContext context).isAuthenticated = true) :
    (userFromContext context).userName ≠ "" := by
  obtain ⟨subject, hsubject, hne⟩ := (isAuthenticated_userFromContext context).mp hauth
  have h : orNone context.peerSubject = some subject := orNone_eq_some.mpr ⟨hsubject, hne⟩
  unfold userFromContext
  rw [h]
  exact hne

end SlimA2a
