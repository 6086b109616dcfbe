import Ratatosk.Engine.AclRuns

/-!
# The file of the users

`save_to_file` and `load_from_file` of `ratatosk-engine/src/acl.rs`.

* `AclState.toPersisted` — the record that is written; names and texts are converted to UTF-8 with
  replacement characters.
* `Storable` — hashes and categories are texts that the loader takes; every call keeps it.
* `acl_file_iff` — **a state that `ACL SETUSER` and `ACL DELUSER` can reach is read back as it was
  exactly if every name is UTF-8 and not empty.**
-/

namespace Ratatosk.Engine

open Lib Resp List AList Bool

variable {σ : Type}

/-! ## Writing and reading -/

/-- Source: `AclState::to_persisted` -/
def persistUser (username : Bytes) (user : AclUser) : PersistedAclUser where
  username := fromUtf8Lossy username
  enabled := user.enabled
  nopass := user.nopass
  passwords := (user.passwords.keys.map fromUtf8Lossy).insertionSort (· ≤ ·)
  allowAllCommands := user.allowAllCommands
  allowedCategories :=
    (user.allowedCategories.keys.map fun c => toLowercase (fromUtf8Lossy c)).insertionSort (· ≤ ·)

/-- Source: `AclState::to_persisted` -/
def AclState.toPersisted (acl : AclState) : PersistedAclState where
  version := 1
  users := acl.userNames.filterMap fun username =>
    (acl.users.lookup username).map (persistUser username)

/-- The strings of a record are strings. -/
structure PersistedAclUser.IsText (user : PersistedAclUser) : Prop where
  username : validUtf8 user.username = true
  passwords : ∀ s ∈ user.passwords, validUtf8 s = true
  allowedCategories : ∀ s ∈ user.allowedCategories, validUtf8 s = true

/-- The TOML library: it writes text, and reads back what it wrote. -/
structure TomlCodec where
  toStringPretty : PersistedAclState → Bytes
  fromStr : Bytes → Except Bytes PersistedAclState
  text : ∀ state, validUtf8 (toStringPretty state) = true
  fromStr_toStringPretty : ∀ state : PersistedAclState, (∀ user ∈ state.users, user.IsText) →
    fromStr (toStringPretty state) = .ok state

/-- What the file holds afterwards.
Source: `AclState::save_to_file` -/
def AclState.saveToFile (toml : TomlCodec) (acl : AclState) : Bytes :=
  toml.toStringPretty acl.toPersisted

/-- A file that is missing is no error.
Source: `AclState::load_from_file` -/
def AclState.loadFromFile (toml : TomlCodec) (path : Bytes) :
    Option Bytes → Except Bytes (Option AclState)
  | none => .ok none
  | some contents =>
    if !validUtf8 contents then .error (ascii "stream did not contain valid UTF-8")
    else match toml.fromStr contents with
      | .error error =>
        .error (ascii "parsing ACL state from " ++ path ++ ascii ": " ++ error)
      | .ok persisted => (AclState.fromPersisted persisted).map some

/-- Two states with the same users. -/
def AclState.SameUsers (a b : AclState) : Prop :=
  ∀ name, Option.Rel AclUser.Same (a.users.lookup name) (b.users.lookup name)

/-! ## What the loader accepts -/

section loader

variable {persisted : List PersistedAclUser}

/-- A user that the loader takes. -/
def PersistedAclUser.accepted (user : PersistedAclUser) : Bool :=
  !user.username.isEmpty &&
    (hashSetOf (user.allowedCategories.map toLowercase)).keys.all isValidAclCategory

/-- The record the loader makes. -/
def PersistedAclUser.toUser (user : PersistedAclUser) : AclUser where
  enabled := user.enabled
  nopass := user.nopass
  passwords := hashSetOf user.passwords
  allowAllCommands := user.allowAllCommands
  allowedCategories := hashSetOf (user.allowedCategories.map toLowercase)

lemma loadUser_of_accepted {user : PersistedAclUser} (h : user.accepted = true)
    (users : HashMap Bytes AclUser) :
    loadUser users user = .ok (users.insert user.username user.toUser) := by
  rw [PersistedAclUser.accepted, and_eq_true, not_eq_true'] at h
  rw [loadUser, if_neg (by rw [h.1]; decide)]
  dsimp only
  rw [if_neg (by rw [h.2]; decide)]
  rfl

lemma accepted_of_loadUser {user : PersistedAclUser} {users users' : HashMap Bytes AclUser}
    (h : loadUser users user = .ok users') : user.accepted = true := by
  rw [loadUser] at h
  dsimp only at h
  split_ifs at h with hname hcategories
  rw [PersistedAclUser.accepted, and_eq_true, not_eq_true']
  exact ⟨eq_false_iff.mpr hname, by simpa using hcategories⟩

/-- The loop over the users succeeds exactly if each is taken. -/
lemma foldlM_loadUser_eq_ok {users users' : HashMap Bytes AclUser} :
    persisted.foldlM loadUser users = .ok users' ↔
      (∀ user ∈ persisted, user.accepted = true) ∧
        users' = persisted.foldl (fun users user => users.insert user.username user.toUser)
          users := by
  induction persisted generalizing users with
  | nil =>
    constructor
    · intro h
      cases h
      exact ⟨fun user huser => absurd huser not_mem_nil, rfl⟩
    · rintro ⟨-, rfl⟩
      rfl
  | cons user persisted ih =>
    rw [foldlM_cons, forall_mem_cons, foldl_cons]
    constructor
    · intro h
      cases hload : loadUser users user with
      | error text =>
        rw [hload] at h
        cases h
      | ok loaded =>
        have haccepted := accepted_of_loadUser hload
        rw [loadUser_of_accepted haccepted] at h
        obtain ⟨hrest, husers⟩ := ih.mp h
        exact ⟨⟨haccepted, hrest⟩, husers⟩
    · rintro ⟨⟨haccepted, hrest⟩, husers⟩
      rw [loadUser_of_accepted haccepted]
      exact ih.mpr ⟨hrest, husers⟩

/-- The users that the loop collects, and the default user if it is missing. -/
def loadedUsers (persisted : List PersistedAclUser) : HashMap Bytes AclUser :=
  let users := HashMap.collect (persisted.map fun user => ⟨user.username, user.toUser⟩)
  if (users.lookup defaultName).isSome then users else users.insert defaultName .defaultUser

/-- A file is loaded if all its users are accepted. -/
lemma fromPersisted_eq_ok {loaded : AclState} :
    AclState.fromPersisted ⟨1, persisted⟩ = .ok loaded ↔
      (∀ user ∈ persisted, user.accepted = true) ∧ loaded = ⟨loadedUsers persisted, []⟩ := by
  have hcollect : persisted.foldl (fun users user => users.insert user.username user.toUser) ∅ =
      HashMap.collect (persisted.map fun user => ⟨user.username, user.toUser⟩) := by
    rw [HashMap.collect, foldl_map]
  have hrun : AclState.fromPersisted ⟨1, persisted⟩ = (do
      let users ← persisted.foldlM loadUser ∅
      return ⟨if (users.lookup defaultName).isSome then users
        else users.insert defaultName .defaultUser, []⟩) := rfl
  rw [hrun]
  cases hfold : persisted.foldlM loadUser ∅ with
  | error text =>
    constructor
    · intro h
      cases h
    · rintro ⟨haccepted, -⟩
      have hok : persisted.foldlM loadUser ∅ = .ok _ :=
        foldlM_loadUser_eq_ok.mpr ⟨haccepted, rfl⟩
      rw [hfold] at hok
      cases hok
  | ok users =>
    obtain ⟨haccepted, rfl⟩ := foldlM_loadUser_eq_ok.mp hfold
    rw [hcollect]
    constructor
    · intro h
      cases h
      exact ⟨haccepted, rfl⟩
    · rintro ⟨-, rfl⟩
      rfl

/-- A name that is loaded is that of a user of the file, or the default one. -/
lemma mem_loadedUsers {name : Bytes} (h : name ∈ loadedUsers persisted) :
    name = defaultName ∨ ∃ user ∈ persisted, user.username = name := by
  have hcollect : name ∈ HashMap.collect (persisted.map fun user =>
      (⟨user.username, user.toUser⟩ : Σ _ : Bytes, AclUser)) →
      ∃ user ∈ persisted, user.username = name := by
    intro hmem
    rw [HashMap.collect, HashMap.mem_foldl_insert] at hmem
    rcases hmem with hmem | hmem
    · rw [List.keys, map_map, mem_map] at hmem
      exact hmem
    · exact absurd hmem (notMem_empty name)
  unfold loadedUsers at h
  dsimp only at h
  split_ifs at h
  · exact .inr (hcollect h)
  · exact ((mem_insert _).mp h).imp_right hcollect

end loader

/-! ## Records that calls make -/

/-- The categories, as they are stored. -/
def categoryNames : List Bytes :=
  ["admin", "read", "write", "pubsub", "connection", "fast"].map ascii

/-- Hashes are texts, and categories are those there are. -/
structure AclUser.Storable (user : AclUser) : Prop where
  passwords : ∀ stored ∈ user.passwords, validUtf8 stored = true
  allowedCategories : ∀ category ∈ user.allowedCategories, category ∈ categoryNames

section storable

lemma lowerByte_upperByte (b : UInt8) : lowerByte (upperByte b) = lowerByte b := by
  have hall : ∀ n : Fin 256, lowerByte (upperByte (UInt8.ofNat n)) = lowerByte (UInt8.ofNat n) := by
    decide +kernel
  have hb := hall ⟨b.toNat, b.toNat_lt⟩
  rw [UInt8.ofNat_toNat] at hb
  exact hb

lemma toLowercase_toUppercase (s : Bytes) : toLowercase (toUppercase s) = toLowercase s := by
  rw [toLowercase, toUppercase, map_map, toLowercase]
  exact map_congr_left fun b _ => lowerByte_upperByte b

lemma toLowercase_mem_categoryNames {category : Bytes} (h : isValidAclCategory category = true) :
    toLowercase category ∈ categoryNames := by
  rw [isValidAclCategory, any_eq_true] at h
  obtain ⟨name, hname, heq⟩ := h
  rw [eqIgnoreCase, beq_iff_eq] at heq
  rw [← toLowercase_toUppercase, heq, toLowercase_toUppercase]
  have hall : ∀ name ∈ ["admin", "read", "write", "pubsub", "connection", "fast"],
      toLowercase (ascii name) ∈ categoryNames := by decide
  exact hall name hname

/-- The names of the categories are lower-case texts that the loader takes. -/
lemma categoryNames_spec : ∀ category ∈ categoryNames, validUtf8 category = true ∧
    toLowercase category = category ∧ isValidAclCategory category = true := by
  decide

lemma mem_categoryNames_of_parse {lossy : Bytes → Bytes} {rule category : Bytes}
    (h : parseAclRule lossy rule = .ok (.addCategory category)) : category ∈ categoryNames := by
  have hrule : ∀ {sign : UInt8} {category : Bytes},
      parseAclCategoryRule rule sign = some category → category ∈ categoryNames := by
    intro sign category hparse
    unfold parseAclCategoryRule at hparse
    split at hparse
    · split_ifs at hparse with hvalid
      rw [← Option.some.inj hparse]
      exact toLowercase_mem_categoryNames hvalid.2.2
    · cases hparse
  have hskip : ∀ {p : Prop} [Decidable p] {r : AclRule} {tail : Except Bytes AclRule},
      (if p then .ok r else tail) = .ok (.addCategory category) → r ≠ .addCategory category →
      tail = .ok (.addCategory category) := by
    intro p _ r tail hite hne
    split_ifs at hite
    · exact absurd (Except.ok.inj hite) hne
    · exact hite
  -- the nine tests before the categories read other rules
  rw [parseAclRule] at h
  iterate 9 replace h := hskip h nofun
  split at h
  · next hadd =>
      cases h
      exact hrule hadd
  · cases h
  · split_ifs at h

lemma forall_mem_empty {P : Bytes → Prop} : ∀ s ∈ (∅ : HashSet Bytes), P s :=
  fun s hmem => absurd hmem (notMem_empty s)

lemma AclUser.Storable.apply {hashPassword : Bytes → Option Bytes} {user user' : AclUser}
    {rule : AclRule} (h : user.Storable)
    (htext : ∀ raw hash, hashPassword raw = some hash → validUtf8 hash = true)
    (hcategory : ∀ category, rule = .addCategory category → category ∈ categoryNames)
    (hrule : rule.apply hashPassword user = some user') : user'.Storable := by
  cases rule with
  | resetpass =>
    cases hrule
    exact ⟨forall_mem_empty, h.allowedCategories⟩
  | addPassword raw =>
    obtain ⟨hash, hhash, rfl⟩ := Option.map_eq_some_iff.mp hrule
    refine ⟨fun stored hmem => ?_, h.allowedCategories⟩
    rcases (mem_insert _).mp hmem with rfl | hmem
    · exact htext raw stored hhash
    · exact h.passwords stored hmem
  | reset =>
    cases hrule
    exact ⟨forall_mem_empty, forall_mem_empty⟩
  | nocommands =>
    cases hrule
    exact ⟨h.passwords, forall_mem_empty⟩
  | addCategory category =>
    cases hrule
    refine ⟨h.passwords, fun category' hmem => ?_⟩
    rcases (mem_insert _).mp hmem with rfl | hmem
    · exact hcategory _ rfl
    · exact h.allowedCategories category' hmem
  | removeCategory category =>
    cases hrule
    exact ⟨h.passwords, fun category' hmem =>
      h.allowedCategories category' ((mem_erase).mp hmem).2⟩
  | on | off | nopass | removePassword | allcommands =>
    cases hrule
    exact ⟨h.passwords, h.allowedCategories⟩

lemma AclUser.Storable.setuserLoop {lossy : Bytes → Bytes}
    {hashPassword : Nat → Bytes → Option Bytes} {user : AclUser} (h : user.Storable)
    (htext : ∀ n raw hash, hashPassword n raw = some hash → validUtf8 hash = true)
    (n : Nat) (rules : List Bytes) : (setuserLoop lossy hashPassword n rules user).1.Storable := by
  induction rules generalizing n user with
  | nil => exact h
  | cons rule rules ih =>
    rw [Engine.setuserLoop]
    cases hrule : setuserRule lossy (hashPassword n) rule user with
    | error text => exact h
    | ok result =>
      obtain ⟨user', removed⟩ := result
      refine ih ?_ (n + 1)
      rw [setuserRule] at hrule
      split at hrule
      · cases hrule
      · next parsed hparsed =>
          split at hrule
          · cases hrule
          · next user'' happly =>
              cases hrule
              refine h.apply (htext n) ?_ happly
              rintro category rfl
              exact mem_categoryNames_of_parse hparsed

lemma AclUser.Storable.setuserRecord {env : AclEnv σ} {rest : σ} {user : AclUser}
    (h : user.Storable)
    (htext : ∀ rest n raw hash, env.hashPassword rest n raw = some hash → validUtf8 hash = true)
    (rules : List Bytes) : (setuserRecord env rest rules user).Storable := by
  have hloop : (Engine.setuserLoop env.lossy (env.hashPassword rest) 0 rules user).1.Storable :=
    h.setuserLoop (htext rest) 0 rules
  rw [Engine.setuserRecord]
  split
  · next hrun =>
      rw [hrun] at hloop
      exact hloop
  · next user' removed hrun =>
      rw [hrun] at hloop
      obtain ⟨passwords, hfold, hmem⟩ :=
        AclUser.foldl_removePassword env.verifyPasswordHash removed user'
      rw [hfold]
      exact ⟨fun stored hstored => hloop.passwords stored ((hmem stored).mp hstored).1,
        hloop.allowedCategories⟩

/-- A state whose users can be stored, the default one among them. -/
structure AclState.Storable (acl : AclState) : Prop where
  users : ∀ name user, acl.users.lookup name = some user → user.Storable
  defaultUser : (acl.users.lookup defaultName).isSome = true

lemma AclUser.storable_empty (enabled nopass allowAll : Bool) :
    AclUser.Storable ⟨enabled, nopass, ∅, allowAll, ∅⟩ :=
  ⟨forall_mem_empty, forall_mem_empty⟩

lemma AclState.storable_default : AclState.default.Storable where
  users := by
    intro name user huser
    have hmem := mem_lookup_iff.mp huser
    obtain rfl : user = .defaultUser := by
      cases mem_singleton.mp hmem
      rfl
    exact AclUser.storable_empty true true true
  defaultUser := by decide

lemma AclState.Storable.run {env : AclEnv σ} {acl : AclState} (h : acl.Storable)
    (htext : ∀ rest n raw hash, env.hashPassword rest n raw = some hash → validUtf8 hash = true)
    (rest : σ) (call : AclCall) : (AclCall.run env rest acl call).Storable := by
  cases call with
  | setuser username rules =>
    constructor
    · intro name user huser
      rw [lookup_setuser] at huser
      split_ifs at huser with hname
      · rw [← Option.some.inj huser]
        refine AclUser.Storable.setuserRecord ?_ htext rules
        rw [AclState.getOrCreateUser]
        cases hold : acl.users.lookup username with
        | none => exact AclUser.storable_empty false false false
        | some old => exact h.users username old hold
      · exact h.users name user huser
    · rw [lookup_setuser]
      split_ifs
      · rfl
      · exact h.defaultUser
  | deluser username usernames =>
    constructor
    · intro name user huser
      rw [lookup_deluser] at huser
      split_ifs at huser
      exact h.users name user huser
    · rw [lookup_deluser, if_neg fun hgone => hgone.2 rfl]
      exact h.defaultUser

end storable

/-! ## The round trip -/

section roundTrip

variable {user : AclUser}

lemma mem_hashSetOf {items : List Bytes} {s : Bytes} : s ∈ hashSetOf items ↔ s ∈ items := by
  rw [hashSetOf, HashMap.collect, HashMap.mem_foldl_insert, List.keys, map_map]
  simp [notMem_empty]

variable {acl : AclState}

lemma isSome_eq_of_rel {α β : Type} {r : α → β → Prop} {a : Option α} {b : Option β}
    (h : Option.Rel r a b) : a.isSome = b.isSome := by
  cases h with
  | none => rfl
  | some => rfl

lemma mem_userNames {name : Bytes} : name ∈ acl.userNames ↔ name ∈ acl.users := by
  rw [AclState.userNames, mem_insertionSort, ← AList.mem_keys]

/-- The file has a record for each user. -/
lemma mem_toPersisted {user : PersistedAclUser} :
    user ∈ acl.toPersisted.users ↔
      ∃ name u, acl.users.lookup name = some u ∧ user = persistUser name u := by
  rw [AclState.toPersisted, mem_filterMap]
  constructor
  · rintro ⟨name, -, huser⟩
    obtain ⟨u, hu, rfl⟩ := Option.map_eq_some_iff.mp huser
    exact ⟨name, u, hu, rfl⟩
  · rintro ⟨name, u, hu, rfl⟩
    refine ⟨name, mem_userNames.mpr ?_, by rw [hu]; rfl⟩
    exact lookup_isSome.mp (Option.isSome_of_mem hu)

lemma toLowercase_fromUtf8Lossy {category : Bytes} (h : category ∈ categoryNames) :
    toLowercase (fromUtf8Lossy category) = category := by
  obtain ⟨hvalid, hlower, -⟩ := categoryNames_spec category h
  rw [fromUtf8Lossy_eq_iff.mpr hvalid, hlower]

/-- A set that is written out through a map that changes none of its members. -/
lemma mem_sorted_map_iff {items : HashSet Bytes} {f : Bytes → Bytes}
    (hf : ∀ s ∈ items, f s = s) (s : Bytes) :
    s ∈ (items.keys.map f).insertionSort (· ≤ ·) ↔ s ∈ items := by
  rw [mem_insertionSort, map_congr_left fun s hs => hf s (AList.mem_keys.mpr hs),
    map_id', AList.mem_keys]

/-- A record has the categories of its user. -/
lemma mem_persistUser_categories (h : user.Storable) (name category : Bytes) :
    category ∈ (persistUser name user).allowedCategories ↔ category ∈ user.allowedCategories :=
  mem_sorted_map_iff (fun s hs => toLowercase_fromUtf8Lossy (h.allowedCategories s hs)) category

/-- A record has the passwords of its user. -/
lemma mem_persistUser_passwords (h : user.Storable) (name stored : Bytes) :
    stored ∈ (persistUser name user).passwords ↔ stored ∈ user.passwords :=
  mem_sorted_map_iff (fun s hs => fromUtf8Lossy_eq_iff.mpr (h.passwords s hs)) stored

lemma mem_toUser_categories (h : user.Storable) (name category : Bytes) :
    category ∈ (persistUser name user).toUser.allowedCategories ↔
      category ∈ user.allowedCategories := by
  have hlower : ∀ s ∈ (persistUser name user).allowedCategories, toLowercase s = s := by
    intro s hs
    exact (categoryNames_spec s
      (h.allowedCategories s ((mem_persistUser_categories h name s).mp hs))).2.1
  rw [PersistedAclUser.toUser, mem_hashSetOf, map_congr_left hlower, map_id',
    mem_persistUser_categories h]

/-- A record that is written and read back is the record. -/
lemma same_toUser_persistUser (h : user.Storable) (name : Bytes) :
    (persistUser name user).toUser.Same user where
  enabled := rfl
  nopass := rfl
  passwords stored := mem_hashSetOf.trans (mem_persistUser_passwords h name stored)
  allowAllCommands := rfl
  allowedCategories category := mem_toUser_categories h name category

/-- A record is text. -/
lemma isText_persistUser (h : user.Storable) (name : Bytes) :
    (persistUser name user).IsText where
  username := validUtf8_fromUtf8Lossy name
  passwords s hs := h.passwords s ((mem_persistUser_passwords h name s).mp hs)
  allowedCategories s hs :=
    (categoryNames_spec s
      (h.allowedCategories s ((mem_persistUser_categories h name s).mp hs))).1

/-- A record is accepted unless its name is empty. -/
lemma accepted_persistUser (h : user.Storable) {name : Bytes} :
    (persistUser name user).accepted = true ↔ fromUtf8Lossy name ≠ [] := by
  have hcategories : (persistUser name user).toUser.allowedCategories.keys.all
      isValidAclCategory = true := by
    rw [all_eq_true]
    intro category hmem
    have hstored := (mem_toUser_categories h name category).mp (AList.mem_keys.mpr hmem)
    exact (categoryNames_spec category (h.allowedCategories category hstored)).2.2
  have haccepted : (persistUser name user).accepted =
      (!(fromUtf8Lossy name).isEmpty &&
        (persistUser name user).toUser.allowedCategories.keys.all isValidAclCategory) := rfl
  rw [haccepted, hcategories, Bool.and_true, not_eq_true', isEmpty_eq_false_iff]

/-- Reading back succeeds exactly if every name is taken. -/
lemma loadFromFile_saveToFile (toml : TomlCodec) (path : Bytes) (h : acl.Storable)
    {loaded : AclState} :
    AclState.loadFromFile toml path (some (acl.saveToFile toml)) = .ok (some loaded) ↔
      (∀ name ∈ acl.users, fromUtf8Lossy name ≠ []) ∧
        loaded = ⟨loadedUsers acl.toPersisted.users, []⟩ := by
  have htext : ∀ user ∈ acl.toPersisted.users, user.IsText := by
    intro user huser
    obtain ⟨name, u, hu, rfl⟩ := mem_toPersisted.mp huser
    exact isText_persistUser (h.users name u hu) name
  have haccepted : (∀ user ∈ acl.toPersisted.users, user.accepted = true) ↔
      ∀ name ∈ acl.users, fromUtf8Lossy name ≠ [] := by
    constructor
    · intro hall name hname
      obtain ⟨u, hu⟩ := Option.isSome_iff_exists.mp (lookup_isSome.mpr hname)
      exact (accepted_persistUser (h.users name u hu)).mp
        (hall _ (mem_toPersisted.mpr ⟨name, u, hu, rfl⟩))
    · intro hall user huser
      obtain ⟨name, u, hu, rfl⟩ := mem_toPersisted.mp huser
      exact (accepted_persistUser (h.users name u hu)).mpr
        (hall name (lookup_isSome.mp (Option.isSome_of_mem hu)))
  have hmap : ∀ result : Except Bytes AclState, result.map some = .ok (some loaded) ↔
      result = .ok loaded := by
    intro result
    cases result with
    | error text => simp [Except.map]
    | ok state => simp [Except.map]
  rw [AclState.loadFromFile, AclState.saveToFile, toml.text, toml.fromStr_toStringPretty _ htext,
    ← haccepted]
  exact (hmap _).trans fromPersisted_eq_ok

/-- With names that are texts, the loader finds each user under the name it had. -/
lemma sameUsers_loadedUsers (h : acl.Storable)
    (hnames : ∀ name ∈ acl.users, validUtf8 name = true) :
    AclState.SameUsers ⟨loadedUsers acl.toPersisted.users, []⟩ acl := by
  have hlossy : ∀ {name u}, acl.users.lookup name = some u → fromUtf8Lossy name = name :=
    fun hu => fromUtf8Lossy_eq_iff.mpr
      (hnames _ (lookup_isSome.mp (Option.isSome_of_mem hu)))
  let entries := acl.toPersisted.users.map fun user =>
    (⟨user.username, user.toUser⟩ : Σ _ : Bytes, AclUser)
  have hkeys : entries.keys = acl.userNames := by
    rw [List.keys, map_map, AclState.toPersisted, map_filterMap]
    refine (filterMap_congr fun name hname => ?_).trans filterMap_some
    obtain ⟨u, hu⟩ := Option.isSome_iff_exists.mp (lookup_isSome.mpr (mem_userNames.mp hname))
    rw [hu]
    exact congrArg some (hlossy hu)
  have hnodup : entries.NodupKeys := by
    rw [List.NodupKeys, hkeys, AclState.userNames]
    exact (perm_insertionSort _ _).nodup_iff.mpr acl.users.keys_nodup
  have hlookup : ∀ name, (HashMap.collect entries).lookup name = entries.dlookup name := by
    intro name
    rw [HashMap.collect, HashMap.lookup_foldl_insert hnodup, lookup_empty, Option.or_none]
  have hsame : ∀ name, Option.Rel AclUser.Same ((HashMap.collect entries).lookup name)
      (acl.users.lookup name) := by
    intro name
    rw [hlookup]
    cases hold : acl.users.lookup name with
    | none =>
      have hfresh : name ∉ entries.keys := by
        rw [hkeys, mem_userNames]
        exact lookup_eq_none.mp hold
      rw [dlookup_eq_none.mpr hfresh]
      exact .none
    | some u =>
      have hmem : ⟨name, (persistUser name u).toUser⟩ ∈ entries := by
        refine mem_map.mpr ⟨persistUser name u, mem_toPersisted.mpr ⟨name, u, hold, rfl⟩, ?_⟩
        exact congrArg (Sigma.mk · _) (hlossy hold)
      rw [mem_dlookup hnodup hmem]
      exact .some (same_toUser_persistUser (h.users name u hold) name)
  have hdefault : ((HashMap.collect entries).lookup defaultName).isSome = true :=
    (isSome_eq_of_rel (hsame defaultName)).trans h.defaultUser
  intro name
  have hloaded : loadedUsers acl.toPersisted.users = HashMap.collect entries := if_pos hdefault
  rw [hloaded]
  exact hsame name

/-- Reading back what is written gives the same users exactly if every name is UTF-8 and not
empty. -/
lemma loads_same_iff (toml : TomlCodec) (path : Bytes) (h : acl.Storable) :
    (∃ loaded, AclState.loadFromFile toml path (some (acl.saveToFile toml)) = .ok (some loaded) ∧
      loaded.SameUsers acl) ↔ ∀ name ∈ acl.users, name ≠ [] ∧ validUtf8 name = true := by
  constructor
  · rintro ⟨loaded, hload, hsame⟩ name hname
    obtain ⟨hnames, rfl⟩ := (loadFromFile_saveToFile toml path h).mp hload
    refine ⟨fun hnil => hnames name hname (by rw [hnil]; rfl), ?_⟩
    -- a name of the loaded state is a converted one, or that of the default user
    have hloaded : name ∈ loadedUsers acl.toPersisted.users :=
      lookup_isSome.mp ((isSome_eq_of_rel (hsame name)).trans (lookup_isSome.mpr hname))
    rcases mem_loadedUsers hloaded with rfl | ⟨user, huser, rfl⟩
    · rfl
    · obtain ⟨stored, u, -, rfl⟩ := mem_toPersisted.mp huser
      exact validUtf8_fromUtf8Lossy stored
  · intro hnames
    refine ⟨_, (loadFromFile_saveToFile toml path h).mpr ⟨fun name hname => ?_, rfl⟩,
      sameUsers_loadedUsers h fun name hname => (hnames name hname).2⟩
    rw [fromUtf8Lossy_eq_iff.mpr (hnames name hname).2]
    exact (hnames name hname).1

/-- Every reachable state is storable. -/
lemma storable_runCalls {env : AclEnv σ} {verifyPassword : Bytes → Bytes → Bool}
    (hhash : env.Hashing verifyPassword) (calls : List (σ × AclCall)) :
    (runCalls env calls .default).Storable :=
  runCalls_induction (fun rest call _ h => h.run hhash.text rest call) AclState.storable_default

end roundTrip

/-- **The file of the users.** In every state that calls of `ACL SETUSER` and `ACL DELUSER` reach
from the state of a new server, reading back what is written gives the same users exactly if every
name is UTF-8 and not empty. -/
theorem acl_file_iff {env : AclEnv σ} {verifyPassword : Bytes → Bytes → Bool}
    (hhash : env.Hashing verifyPassword) (toml : TomlCodec) (path : Bytes)
    (calls : List (σ × AclCall)) :
    (∃ loaded, AclState.loadFromFile toml path
        (some ((runCalls env calls .default).saveToFile toml)) = .ok (some loaded) ∧
      loaded.SameUsers (runCalls env calls .default)) ↔
      ∀ name ∈ (runCalls env calls .default).users, name ≠ [] ∧ validUtf8 name = true :=
  loads_same_iff toml path (storable_runCalls hhash calls)

/-! ### Names that are lost -/

instance encodable_byte : Encodable UInt8 :=
  .ofLeftInverse UInt8.toNat UInt8.ofNat fun _ => UInt8.ofNat_toNat

instance encodable_persistedAclUser : Encodable PersistedAclUser :=
  .ofLeftInverse
    (fun u => (u.username, u.enabled, u.nopass, u.passwords, u.allowAllCommands,
      u.allowedCategories))
    (fun u => ⟨u.1, u.2.1, u.2.2.1, u.2.2.2.1, u.2.2.2.2.1, u.2.2.2.2.2⟩)
    fun _ => rfl

instance encodable_persistedAclState : Encodable PersistedAclState :=
  .ofLeftInverse (fun s => (s.version, s.users)) (fun s => ⟨s.1, s.2⟩) fun _ => rfl

/-- A library that writes a record as a number: its bytes, flags and lists are paired up to one. -/
def TomlCodec.numbered : TomlCodec where
  toStringPretty state := decimalInt (Encodable.encode state)
  fromStr text := match ((parseInt text).map Int.toNat).bind Encodable.decode with
    | some state => .ok state
    | none => .error (ascii "not a number")
  text _ := validUtf8_decimalInt _
  fromStr_toStringPretty := by
    intro state _
    rw [parseInt_decimalInt, Option.map_some, Int.toNat_natCast, Option.bind_some,
      Encodable.encodek]

/-- `ACL SETUSER` takes a name that is empty and one that is not UTF-8. The file written with the
first cannot be read; with the second, the user is loaded under another name. -/
theorem odd_names_are_not_reloaded :
    (¬ ∃ loaded, AclState.loadFromFile .numbered []
        (some ((runCalls AclEnv.dollar [((), .setuser [] [])] .default).saveToFile .numbered)) =
          .ok (some loaded) ∧
      loaded.SameUsers (runCalls AclEnv.dollar [((), .setuser [] [])] .default)) ∧
    ¬ ∃ loaded, AclState.loadFromFile .numbered []
        (some ((runCalls AclEnv.dollar [((), .setuser [0xFF] [])] .default).saveToFile
          .numbered)) = .ok (some loaded) ∧
      loaded.SameUsers (runCalls AclEnv.dollar [((), .setuser [0xFF] [])] .default) := by
  have hmem : ∀ name, name ∈ (runCalls AclEnv.dollar [((), .setuser name [])] .default).users :=
    fun name => (mem_insert _).mpr (.inl rfl)
  refine ⟨fun h => ?_, fun h => ?_⟩
  · have hnames := (loads_same_iff _ _ (storable_runCalls AclEnv.hashing_dollar _)).mp h
    exact (hnames _ (hmem _)).1 rfl
  · have hnames := (loads_same_iff _ _ (storable_runCalls AclEnv.hashing_dollar _)).mp h
    exact absurd (hnames _ (hmem _)).2 (by decide +kernel)

/-- A user with a password and a category is loaded as it was. -/
theorem alice_is_reloaded :
    let acl := runCalls AclEnv.dollar
      [((), .setuser (ascii "alice") (["on", ">pw", "+@Read"].map ascii))] .default
    ∃ loaded, AclState.loadFromFile .numbered [] (some (acl.saveToFile .numbered)) =
        .ok (some loaded) ∧ loaded.SameUsers acl := by
  refine (acl_file_iff AclEnv.hashing_dollar .numbered [] _).mpr ?_
  decide +kernel

end Ratatosk.Engine
