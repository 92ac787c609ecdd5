/-!
# HTTP verbs

Seven verbs are standard and have an attribute of their own name in lower case. Any other token
is a custom verb and is kept as it is written. Reading is case-sensitive: `get` is a custom verb.
-/

namespace ClientTraits

/-- The verb of a request. -/
inductive Verb
  | get
  | post
  | put
  | patch
  | delete
  | head
  | options
  | custom (token : String)
  deriving DecidableEq, Repr

namespace Verb

/-- The verb that a token denotes. Every token denotes one. -/
def ofToken : String → Verb
  | "GET" => get
  | "POST" => post
  | "PUT" => put
  | "PATCH" => patch
  | "DELETE" => delete
  | "HEAD" => head
  | "OPTIONS" => options
  | token => custom token

/-- The token sent for a verb. -/
def token : Verb → String
  | get => "GET"
  | post => "POST"
  | put => "PUT"
  | patch => "PATCH"
  | delete => "DELETE"
  | head => "HEAD"
  | options => "OPTIONS"
  | custom token => token

/-- The verb whose shorthand attribute has this name. -/
def ofShorthand? : String → Option Verb
  | "get" => some get
  | "post" => some post
  | "put" => some put
  | "patch" => some patch
  | "delete" => some delete
  | "head" => some head
  | "options" => some options
  | _ => none

/-- One of the seven verbs with a shorthand attribute. -/
def isStandard : Verb → Bool
  | custom _ => false
  | _ => true

/-- The name of the shorthand attribute of a standard verb. A custom verb has none; its token
stands in. -/
def shorthand : Verb → String
  | get => "get"
  | post => "post"
  | put => "put"
  | patch => "patch"
  | delete => "delete"
  | head => "head"
  | options => "options"
  | custom token => token

/-- A custom verb is not spelled like a standard one, so its token denotes it. -/
def Faithful (v : Verb) : Prop :=
  ofToken v.token = v

instance (v : Verb) : Decidable v.Faithful :=
  inferInstanceAs (Decidable (ofToken v.token = v))

/-- The token of a verb that was read is the token it was read from. -/
theorem token_ofToken (s : String) : (ofToken s).token = s := by
  unfold ofToken
  split <;> rfl

/-- Reading a token yields a faithful verb. -/
theorem faithful_ofToken (s : String) : (ofToken s).Faithful := by
  simp [Faithful, token_ofToken]

end Verb

end ClientTraits
