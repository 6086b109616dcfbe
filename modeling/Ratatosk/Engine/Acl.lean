import Ratatosk.Engine.CommandTable
import Ratatosk.Lib.HashMap

/-!
# Access control

`AclUser` and `AclState` of `ratatosk-engine/src/acl.rs`, what the dispatcher asks of them, and
the state that startup loads from disk.

* `AclState.fromPersisted` — the state of a decoded `users.acl.toml`. The TOML decoder is a
  library, so the decoded record is the argument.

Password verification is a parameter of the questions that use it.
-/

namespace Ratatosk.Engine

open Lib

/-! ## Users -/

/-- Source: `AclUser` -/
structure AclUser where
  enabled : Bool
  nopass : Bool
  passwords : HashSet Bytes
  allowAllCommands : Bool
  allowedCategories : HashSet Bytes

/-- Source: `AclUser::default_user` -/
def AclUser.defaultUser : AclUser := ⟨true, true, ∅, true, ∅⟩

/-- Source: `AclUser::category_allowed` -/
def AclUser.categoryAllowed (u : AclUser) (category : Bytes) : Bool :=
  u.allowAllCommands || u.allowedCategories.keys.contains category

/-- The name of the user that a connection starts as. -/
def defaultName : Bytes := ascii "default"

/-- Source: `AclState` -/
structure AclState where
  users : HashMap Bytes AclUser
  /-- The lines that `ACL LOG` shows, the latest first. -/
  log : List Bytes

namespace AclState

/-- Source: `AclState` `Default` -/
def default : AclState := ⟨AList.singleton defaultName .defaultUser, []⟩

/-- Source: `AclState::default_user_is_nopass_enabled` -/
def defaultUserIsNopassEnabled (acl : AclState) : Bool :=
  (acl.users.lookup defaultName).any fun u => u.enabled && u.nopass

/-- Source: `AclState::default_user_has_full_access` -/
def defaultUserHasFullAccess (acl : AclState) : Bool :=
  (acl.users.lookup defaultName).any fun u => u.enabled && u.allowAllCommands

/-- Source: `AclState::command_allowed_mask` -/
def commandAllowedMask (acl : AclState) (username : Bytes) (required : List Category) : Bool :=
  match acl.users.lookup username with
  | none => false
  | some u =>
    if !u.enabled then false
    else if u.allowAllCommands || required.isEmpty then true
    else required.all fun category => u.categoryAllowed category.name

/-- Source: `AclState::authenticate_user` -/
def authenticateUser (acl : AclState) (verifyPasswordHash : Bytes → Bytes → Bool)
    (username password : Bytes) : Bool :=
  match acl.users.lookup username with
  | none => false
  | some u =>
    if !u.enabled then false
    else if u.nopass then true
    else u.passwords.keys.any fun stored => verifyPasswordHash stored password

end AclState

/-! ## Loading from disk -/

/-- Source: `PersistedAclUser` -/
structure PersistedAclUser where
  username : Bytes
  enabled : Bool
  nopass : Bool
  passwords : List Bytes
  allowAllCommands : Bool
  allowedCategories : List Bytes

/-- Source: `PersistedAclState` -/
structure PersistedAclState where
  version : Nat
  users : List PersistedAclUser

/-- `to_ascii_lowercase` of a byte. -/
def lowerByte (b : UInt8) : UInt8 := if 65 ≤ b ∧ b ≤ 90 then b + 32 else b

/-- `to_ascii_lowercase`. -/
def toLowercase (s : Bytes) : Bytes := s.map lowerByte

/-- Source: `is_valid_acl_category` -/
def isValidAclCategory (category : Bytes) : Bool :=
  ["admin", "read", "write", "pubsub", "connection", "fast"].any fun name =>
    eqIgnoreCase category name

/-- A set of byte strings, collected from a list. -/
def hashSetOf (items : List Bytes) : HashSet Bytes :=
  HashMap.collect (items.map fun s => ⟨s, ()⟩)

/-- One round of the loop over the persisted users.
Source: `AclState::from_persisted` -/
def loadUser (users : HashMap Bytes AclUser) (user : PersistedAclUser) :
    Except Bytes (HashMap Bytes AclUser) :=
  if user.username.isEmpty then .error (ascii "ACL state contains an empty username")
  else
    let categories := hashSetOf (user.allowedCategories.map toLowercase)
    if !categories.keys.all isValidAclCategory then
      .error (ascii "ACL state contains an invalid category for user '" ++ user.username ++
        ascii "'")
    else
      .ok (users.insert user.username
        { enabled := user.enabled
          nopass := user.nopass
          passwords := hashSetOf user.passwords
          allowAllCommands := user.allowAllCommands
          allowedCategories := categories })

/-- Source: `AclState::from_persisted` -/
def AclState.fromPersisted (persisted : PersistedAclState) : Except Bytes AclState := do
  if persisted.version ≠ 1 then
    throw (ascii "unsupported ACL state version " ++ decimal persisted.version)
  let users ← persisted.users.foldlM loadUser ∅
  return ⟨if (users.lookup defaultName).isSome then users
    else users.insert defaultName .defaultUser, []⟩

namespace AclState

/-- The states that startup can load from disk. -/
def Loadable (acl : AclState) : Prop := ∃ persisted, fromPersisted persisted = .ok acl

/-! ## What an unauthenticated connection may run -/

/-- A connection that has not authenticated may run the command: either the command asks for no
authentication, or the default user needs no password and its categories cover the command. -/
def Admits (acl : AclState) (command : Bytes) : Prop :=
  allowsExecuteWithoutAuth command (findCommandSpecUpper command) = true ∨
    (acl.defaultUserIsNopassEnabled = true ∧
      ∀ spec, findCommandSpecUpper command = some spec →
        acl.commandAllowedMask defaultName (aclRequiredCategories spec) = true)

instance (acl : AclState) (command : Bytes) : Decidable (acl.Admits command) :=
  inferInstanceAs (Decidable
    (allowsExecuteWithoutAuth command (findCommandSpecUpper command) = true ∨
      (acl.defaultUserIsNopassEnabled = true ∧ ∀ spec ∈ findCommandSpecUpper command,
        acl.commandAllowedMask defaultName (aclRequiredCategories spec) = true)))

/-- A user with full access may run every command. -/
lemma commandAllowedMask_of_fullAccess {acl : AclState} (h : acl.defaultUserHasFullAccess = true)
    (required : List Category) : acl.commandAllowedMask defaultName required = true := by
  unfold defaultUserHasFullAccess at h
  unfold commandAllowedMask
  cases hu : acl.users.lookup defaultName with
  | none =>
    rw [hu] at h
    cases h
  | some u =>
    rw [hu, Option.any_some, Bool.and_eq_true] at h
    simp [h.1, h.2]

lemma defaultUserIsNopassEnabled_default : default.defaultUserIsNopassEnabled = true := by
  decide

lemma defaultUserHasFullAccess_default : default.defaultUserHasFullAccess = true := by
  decide

end AclState

end Ratatosk.Engine
