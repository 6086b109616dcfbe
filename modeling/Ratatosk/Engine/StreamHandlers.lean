import Ratatosk.Engine.Capture
import Ratatosk.Engine.StreamEdits

/-!
# The handlers of the stream commands

What a stream command does at its key, and when it fails.

* `StreamCommand.purges` — the keys that a handler hands to `purge_expired_key`.
* `Clean` — a function whose error means that it changed nothing.
* `StreamCommand.Handled` — a handler that refuses its arguments, or acts at one key, which it
  hands to `purge_expired_key` first: it edits streams as its command does, and is clean unless it
  is that of `XACK`.
* `handled_streamRun` — **every stream command but `XREADGROUP` is handled so.**
* `dbSteps_run` — **every stream command is steps of `DbSteps`**, with the edits of that command.
-/

namespace Ratatosk.Engine

open Lib Keyspace Resp

/-! ## The keys that a handler purges -/

section purges

variable (err : Bytes → RespFrame)

/-- The keys that `XADD` hands to `purge_expired_key`. -/
def xaddPurges (args : List Bytes) : List Bytes :=
  match args with
  | key :: idRaw :: fields =>
    if fields.length < 2 ∨ fields.length % 2 ≠ 0 then []
    else match parseIdSpec idRaw with
      | .error _ => []
      | .ok _ => [key]
  | _ => []

/-- The same for the loop of `XREADGROUP`, which an error ends. -/
def readgroupPurges (o : ReadgroupOptions) (groupName consumer : Bytes) (now : Int64) :
    List (Bytes × Bytes) → Db → List Bytes
  | [], _ => []
  | (key, idRaw) :: rest, db =>
    key :: match readgroupStream err o groupName consumer key idRaw now db with
      | (_, .error _) => []
      | (db, .ok _) => readgroupPurges o groupName consumer now rest db

/-- The same for the subcommands of `XGROUP`. -/
def xgroupPurges (args : List Bytes) : List Bytes :=
  match args with
  | [] => []
  | subcommand :: rest =>
    let name := toUppercase subcommand
    if name = ascii "CREATE" then
      match rest with
      | [key, _, _] => [key]
      | [key, _, _, option] => if eqIgnoreCase option "MKSTREAM" then [key] else []
      | _ => []
    else if name = ascii "DESTROY" then
      match rest with
      | [key, _] => [key]
      | _ => []
    else if name = ascii "SETID" ∨ name = ascii "CREATECONSUMER" ∨ name = ascii "DELCONSUMER" then
      match rest with
      | [key, _, _] => [key]
      | _ => []
    else []

/-- The keys that the handler of a stream command hands to `purge_expired_key`. -/
def StreamCommand.purges (c : StreamCommand) (args : List Bytes) (now : Int64) (db : Db) :
    List Bytes :=
  match c with
  | .xadd => xaddPurges args
  | .xgroup => xgroupPurges args
  | .xreadgroup =>
    match parseReadgroup args with
    | .error _ => []
    | .ok r => readgroupPurges err r.options r.group r.consumer now r.streams db
  | .xdel =>
    match args with
    | key :: first :: more => if ((first :: more).mapM parseStreamId).isSome then [key] else []
    | _ => []
  | .xtrim =>
    match args with
    | key :: strategy :: first :: more =>
      match if first = ascii "=" ∨ first = ascii "~" then more else first :: more with
      | [] => []
      | threshold :: options =>
        match parseTrimStrategy strategy threshold, parseTrimLimit options none with
        | .ok _, .ok _ => [key]
        | _, _ => []
    | _ => []
  | .xsetid =>
    match args with
    | key :: idRaw :: options =>
      match parseXsetidId idRaw with
      | none => []
      | some newId =>
        match parseXsetidOptions newId options none .zero with
        | .error _ => []
        | .ok _ => [key]
    | _ => []
  | .xack =>
    match args with
    | key :: _ :: _ :: _ => [key]
    | _ => []
  | .xclaim =>
    match args with
    | key :: _ :: _ :: idle :: first :: more =>
      match parseI64 idle, parseClaimIds (first :: more) false with
      | some minIdle, .ok (_, ids) => if minIdle < 0 ∨ ids = [] then [] else [key]
      | _, _ => []
    | _ => []
  | .xautoclaim =>
    match args with
    | key :: _ :: _ :: idle :: startRaw :: options =>
      match parseI64 idle, parseStreamId startRaw, parseAutoclaimOptions options 100 false with
      | some minIdle, some _, .ok _ => if minIdle < 0 then [] else [key]
      | _, _, _ => []
    | _ => []
  | .xackdel =>
    match args with
    | key :: _ :: rest =>
      if args.length < 5 then []
      else match parseDeleteArgs rest with
        | .error _ => []
        | .ok _ => [key]
    | _ => []
  | .xdelex =>
    match args with
    | key :: rest =>
      if args.length < 4 then []
      else match parseDeleteArgs rest with
        | .error _ => []
        | .ok _ => [key]
    | _ => []

end purges

open List Finmap Function

/-! ## Handlers of one key -/

/-- An error means that nothing was changed. -/
def Clean (g : Db → Db × RespFrame) : Prop := ∀ db, isErrorReply (g db).2 = true → (g db).1 = db

section streams

variable (err : Bytes → RespFrame) {db : Db} {now : Int64} {args : List Bytes} {c : StreamCommand}
variable {key name : Bytes} {s : Stream} {g : Group} {absent wrong missing : RespFrame}

/-- A handler of one key. It refuses its arguments and leaves the database alone, or it acts at its
key, which it removes first if it has expired. -/
inductive StreamCommand.Handled (now : Int64) (args : List Bytes) (c : StreamCommand) :
    List Bytes → (Db → Db × RespFrame) → Prop where
  | refused (reply : RespFrame) : Handled now args c [] fun db => (db, reply)
  | acts (key : Bytes) {f : Db → Db × RespFrame}
      (hsteps : ∀ db, DbSteps (commandEdits err now args c) db (f db).1)
      (hclean : c ≠ .xack → Clean f) :
      Handled now args c [key] fun db => f (purgeExpiredKey db key now)

/-- The command has such a handler, for these arguments. -/
def StreamCommand.HandlesKey (now : Int64) (db : Db) (args : List Bytes) (c : StreamCommand) :
    Prop :=
  c.Handled err now args (c.purges err args now db) (c.run err args now)

/-- An edit of a stream is clean if an error means that the stream is as it was. -/
lemma clean_editStream {edit : Stream → Stream × RespFrame} (key : Bytes)
    (h : ∀ s, isErrorReply (edit s).2 = true → (edit s).1 = s) :
    Clean (editStream absent wrong edit key) := by
  intro db herror
  unfold editStream at herror ⊢
  split at herror
  · rfl
  · rename_i entry hentry
    obtain ⟨value, expireAtMs⟩ := entry
    dsimp only at herror ⊢
    split at herror
    · rw [h _ herror]
      exact FiniteMap.insert_eq_self hentry
    · rfl

/-- The same for an edit of a group. -/
lemma editGroup_of_error {edit : Group → Group × RespFrame}
    (h : ∀ g, isErrorReply (edit g).2 = true → (edit g).1 = g)
    (herror : isErrorReply (editGroup missing name edit s).2 = true) :
    (editGroup missing name edit s).1 = s := by
  unfold editGroup at herror ⊢
  split at herror
  · rfl
  · rename_i g hg
    change { s with groups := s.groups.insert name (edit g).1 } = s
    rw [h g herror, FiniteMap.insert_eq_self hg]

/-- A command that edits a stream. -/
lemma handled_edit {edit : Stream → Stream × RespFrame}
    (hedit : ∀ s, StreamEdit err now args key c s (edit s).1)
    (hclean : c ≠ .xack → ∀ s, isErrorReply (edit s).2 = true → (edit s).1 = s) :
    c.Handled err now args [key]
      fun db => editStream absent wrong edit key (purgeExpiredKey db key now) :=
  .acts key (dbSteps_editStream absent wrong hedit) fun hc => clean_editStream key (hclean hc)

/-- A command that edits a group of the stream at a key. -/
lemma handled_editGroup {edit : Stream → Group → Group × RespFrame}
    (hedit : ∀ s g, GroupEdit err now s.entries c g (edit s g).1)
    (hclean : c ≠ .xack → ∀ s g, isErrorReply (edit s g).2 = true → (edit s g).1 = g) :
    c.Handled err now args [key] fun db =>
      editStream absent wrong (fun s => editGroup missing name (edit s) s) key
        (purgeExpiredKey db key now) :=
  handled_edit err (fun s => streamEdit_editGroup err now args (hedit s)) fun hc s =>
    editGroup_of_error (hclean hc s)

/-! ## The commands -/

lemma clean_applyXadd (key : Bytes) (spec : IdSpec) (fields : List (Bytes × Bytes)) :
    Clean (applyXadd err key spec fields now) := by
  intro db herror
  have hresult := xaddResult_applyXadd err now db key spec fields
  generalize applyXadd err key spec fields now db = result at herror hresult
  cases hresult with
  | refused text | wrongtype => rfl
  | added _ id => cases herror

/-- `XADD` handles one key. -/
lemma handled_cmdXadd (args : List Bytes) : StreamCommand.xadd.HandlesKey err now db args := by
  match args with
  | [] | [_] => exact .refused _
  | key :: idRaw :: fields =>
    unfold StreamCommand.HandlesKey StreamCommand.purges xaddPurges StreamCommand.run cmdXadd
    dsimp only
    split_ifs
    · exact .refused _
    · cases parseIdSpec idRaw with
      | error text => exact .refused _
      | ok spec =>
        refine .acts key (fun db => ?_) fun _ => clean_applyXadd err key spec _
        exact (xaddResult_applyXadd err now db key spec _).dbSteps err now _ db

lemma trimStream_of_error {mode : TrimStrategy} {limit : Option Nat}
    (herror : isErrorReply (trimStream mode limit s).2 = true) :
    (trimStream mode limit s).1 = s := by
  unfold trimStream at herror ⊢
  dsimp only at herror ⊢
  split_ifs at herror
  · cases herror
  · cases herror

/-- `XTRIM` handles one key. -/
lemma handled_cmdXtrim (args : List Bytes) : StreamCommand.xtrim.HandlesKey err now db args := by
  match args with
  | [] | [_] | [_, _] => exact .refused _
  | key :: strategy :: first :: more =>
    unfold StreamCommand.HandlesKey StreamCommand.purges StreamCommand.run cmdXtrim
    dsimp only
    cases if first = ascii "=" ∨ first = ascii "~" then more else first :: more with
    | nil => exact .refused _
    | cons threshold options =>
      dsimp only
      cases parseTrimStrategy strategy threshold with
      | error text => exact .refused _
      | ok mode =>
        cases parseTrimLimit options none with
        | error text => exact .refused _
        | ok limit =>
          exact handled_edit err (fun s => .trim mode limit s) fun _ _ => trimStream_of_error

/-- `XDEL` handles one key. -/
lemma handled_cmdXdel (args : List Bytes) : StreamCommand.xdel.HandlesKey err now db args := by
  match args with
  | [] | [_] => exact .refused _
  | key :: first :: more =>
    unfold StreamCommand.HandlesKey StreamCommand.purges StreamCommand.run cmdXdel
    dsimp only
    cases (first :: more).mapM parseStreamId with
    | none => exact .refused _
    | some ids =>
      exact handled_edit err (fun s => .delete ids s)
        fun _ _ herror => absurd herror Bool.false_ne_true

/-- `XSETID` handles one key. -/
lemma handled_cmdXsetid (args : List Bytes) : StreamCommand.xsetid.HandlesKey err now db args := by
  match args with
  | [] | [_] => exact .refused _
  | key :: idRaw :: options =>
    unfold StreamCommand.HandlesKey StreamCommand.purges StreamCommand.run cmdXsetid
    dsimp only
    cases parseXsetidId idRaw with
    | none => exact .refused _
    | some newId =>
      dsimp only
      cases hoptions : parseXsetidOptions newId options none .zero with
      | error text => exact .refused _
      | ok parsed =>
        refine handled_edit err (fun s => ?_) fun _ s herror => ?_
        · rw [setStreamId]
          split
          · exact .keep .xsetid s
          · rename_i hallowed
            exact .setId newId parsed.2 parsed.1 s rfl
              (parseXsetidOptions_max hoptions (.inl rfl)) hallowed
        · unfold setStreamId at herror ⊢
          split at herror
          · rfl
          · cases herror

lemma createGroup_of_error {idRaw : Bytes}
    (herror : isErrorReply (createGroup err name idRaw s).2 = true) :
    (createGroup err name idRaw s).1 = s := by
  unfold createGroup at herror ⊢
  split at herror
  · rfl
  · split_ifs at herror ⊢
    · rfl
    · cases herror

lemma clean_xgroupCreate (key name idRaw : Bytes) (mkstream : Bool) :
    Clean (xgroupCreate err key name idRaw mkstream) := by
  intro db herror
  unfold xgroupCreate at herror ⊢
  split_ifs at herror ⊢
  · unfold createGroupAndStream at herror ⊢
    split at herror
    · rfl
    · cases herror
  · exact clean_editStream key (fun _ => createGroup_of_error err) db herror

lemma createConsumer_of_error
    (herror : isErrorReply (createConsumer name now g).2 = true) :
    (createConsumer name now g).1 = g := by
  unfold createConsumer at herror ⊢
  split_ifs at herror ⊢
  · rfl
  · cases herror

/-- The part of `XGROUP` for `SETID`, `CREATECONSUMER` and `DELCONSUMER`. -/
lemma handled_xgroupEdit (subcommand : Bytes) (rest : List Bytes)
    (edit : Bytes → Stream → Group → Group × RespFrame) :
    (∀ raw s g, GroupEdit err now s.entries .xgroup g (edit raw s g).1) →
    (∀ raw s g, isErrorReply (edit raw s g).2 = true → (edit raw s g).1 = g) →
    StreamCommand.xgroup.Handled err now (subcommand :: rest)
      (match rest with
        | [key, _, _] => [key]
        | _ => [])
      fun db => match rest with
        | [key, groupName, raw] => editStream (err (xreadgroupNogroupText key groupName)) wrongtype
            (fun s => editGroup (err (xreadgroupNogroupText key groupName)) groupName
              (edit raw s) s) key (purgeExpiredKey db key now)
        | _ => (db, err (wrongArityText (ascii "xgroup"))) := by
  intro hedit hclean
  match rest with
  | [key, groupName, raw] => exact handled_editGroup err (hedit raw) fun _ => hclean raw
  | [] | [_] | [_, _] | _ :: _ :: _ :: _ :: _ => exact .refused _

/-- `XGROUP` handles one key. -/
lemma handled_cmdXgroup (args : List Bytes) : StreamCommand.xgroup.HandlesKey err now db args := by
  rcases args with _ | ⟨subcommand, rest⟩
  · exact .refused _
  · unfold StreamCommand.HandlesKey StreamCommand.purges StreamCommand.run xgroupPurges cmdXgroup
    dsimp only
    by_cases hhelp : toUppercase subcommand = ascii "HELP"
    · simp only [hhelp, ascii_inj, String.reduceEq, if_true, if_false, or_self]
      split_ifs
      · exact .refused _
      · exact .refused _
    simp only [hhelp, if_false]
    by_cases hcreate : toUppercase subcommand = ascii "CREATE"
    · simp only [hcreate, if_true]
      have hacts (key name idRaw : Bytes) (mkstream : Bool) :
          StreamCommand.xgroup.Handled err now (subcommand :: rest) [key] fun db =>
            xgroupCreate err key name idRaw mkstream (purgeExpiredKey db key now) :=
        .acts key (fun db => dbSteps_xgroupCreate err now _ db key name idRaw mkstream) fun _ =>
          clean_xgroupCreate err key name idRaw mkstream
      rcases rest with _ | ⟨key, _ | ⟨groupName, _ | ⟨idRaw, _ | ⟨option, _ | ⟨_, _⟩⟩⟩⟩⟩
      iterate 3 exact .refused _
      · exact hacts key groupName idRaw false
      · dsimp only
        cases eqIgnoreCase option "MKSTREAM" with
        | false => exact .refused _
        | true => exact hacts key groupName idRaw true
      · exact .refused _
    simp only [hcreate, if_false]
    by_cases hdestroy : toUppercase subcommand = ascii "DESTROY"
    · simp only [hdestroy, if_true]
      rcases rest with _ | ⟨key, _ | ⟨groupName, _ | ⟨_, _⟩⟩⟩
      iterate 2 exact .refused _
      · exact handled_edit err (fun s => .destroyGroup groupName s)
          fun _ _ herror => absurd herror Bool.false_ne_true
      · exact .refused _
    simp only [hdestroy, if_false]
    by_cases hsetid : toUppercase subcommand = ascii "SETID"
    · simp only [hsetid, true_or, if_true]
      apply handled_xgroupEdit err
      · intro raw s g
        split
        · exact .keep .xgroup g
        · exact .setCursor _ g
      · intro raw s g herror
        split at herror
        · rfl
        · cases herror
    simp only [hsetid, false_or, if_false]
    by_cases hnew : toUppercase subcommand = ascii "CREATECONSUMER"
    · simp only [hnew, true_or, if_true]
      apply handled_xgroupEdit err _ _ fun raw _ => createConsumer raw now
      · exact fun raw s g => .createConsumer raw g
      · exact fun _ _ _ => createConsumer_of_error
    simp only [hnew, false_or, if_false]
    by_cases hdelete : toUppercase subcommand = ascii "DELCONSUMER"
    · simp only [hdelete, if_true]
      apply handled_xgroupEdit err _ _ fun raw _ => deleteConsumer raw
      · exact fun raw s g => .deleteConsumer raw g
      · exact fun _ _ _ herror => absurd herror Bool.false_ne_true
    · simp only [hdelete, if_false]
      exact .refused _

/-- `XACK` handles one key. -/
lemma handled_cmdXack (args : List Bytes) : StreamCommand.xack.HandlesKey err now db args := by
  match args with
  | [] | [_] | [_, _] => exact .refused _
  | key :: groupName :: first :: more =>
    unfold StreamCommand.HandlesKey StreamCommand.purges StreamCommand.run cmdXack
    dsimp only
    exact handled_editGroup err (fun _ g => .ack (first :: more) 0 g) fun hc => absurd rfl hc

/-- `XCLAIM` handles one key. -/
lemma handled_cmdXclaim (args : List Bytes) : StreamCommand.xclaim.HandlesKey err now db args := by
  match args with
  | [] | [_] | [_, _] | [_, _, _] | [_, _, _, _] => exact .refused _
  | key :: groupName :: consumerName :: idle :: first :: more =>
    unfold StreamCommand.HandlesKey StreamCommand.purges StreamCommand.run cmdXclaim
    dsimp only
    cases parseI64 idle with
    | none => exact .refused _
    | some minIdle =>
      cases parseClaimIds (first :: more) false with
      | error text =>
        dsimp only
        split_ifs
        · exact .refused _
        · exact .refused _
      | ok parsed =>
        obtain ⟨justid, ids⟩ := parsed
        dsimp only
        by_cases hneg : minIdle < 0
        · simp only [hneg, true_or, if_true]
          exact .refused _
        by_cases hnil : ids = []
        · simp only [hneg, hnil, or_true, if_true, if_false]
          exact .refused _
        simp only [hneg, hnil, or_self, if_false]
        exact handled_editGroup err (fun _ g => .claim consumerName minIdle ids g)
          fun _ _ _ herror => absurd herror Bool.false_ne_true

/-- `XAUTOCLAIM` handles one key. -/
lemma handled_cmdXautoclaim (args : List Bytes) :
    StreamCommand.xautoclaim.HandlesKey err now db args := by
  match args with
  | [] | [_] | [_, _] | [_, _, _] | [_, _, _, _] => exact .refused _
  | key :: groupName :: consumerName :: idle :: startRaw :: options =>
    unfold StreamCommand.HandlesKey StreamCommand.purges StreamCommand.run cmdXautoclaim
    dsimp only
    cases parseI64 idle with
    | none => exact .refused _
    | some minIdle =>
      cases parseStreamId startRaw with
      | none =>
        dsimp only
        split_ifs
        · exact .refused _
        · exact .refused _
      | some start =>
        cases parseAutoclaimOptions options 100 false with
        | error text =>
          dsimp only
          split_ifs
          · exact .refused _
          · exact .refused _
        | ok parsed =>
          dsimp only
          split_ifs
          · exact .refused _
          · exact handled_editGroup err
              (fun _ g => .autoclaim consumerName minIdle start parsed.1 _ [] g)
              fun _ _ _ herror => absurd herror Bool.false_ne_true

/-- `XACKDEL` handles one key. -/
lemma handled_cmdXackdel (args : List Bytes) : StreamCommand.xackdel.HandlesKey err now db args := by
  match args with
  | [] | [_] => exact .refused _
  | key :: groupName :: rest =>
    unfold StreamCommand.HandlesKey StreamCommand.purges StreamCommand.run cmdXackdel
    dsimp only
    split_ifs
    · exact .refused _
    · cases parseDeleteArgs rest with
      | error text => exact .refused _
      | ok parsed =>
        refine handled_edit err (fun s => ?_) fun _ s herror => ?_
        · rw [ackdelStream]
          split_ifs
          · exact .keep .xackdel s
          · exact .ackdel parsed.1 groupName parsed.2 s
        · unfold ackdelStream at herror ⊢
          split_ifs at herror ⊢
          · rfl
          · cases herror

/-- `XDELEX` handles one key. -/
lemma handled_cmdXdelex (args : List Bytes) : StreamCommand.xdelex.HandlesKey err now db args := by
  match args with
  | [] => exact .refused _
  | key :: rest =>
    unfold StreamCommand.HandlesKey StreamCommand.purges StreamCommand.run cmdXdelex
    dsimp only
    split_ifs
    · exact .refused _
    · cases parseDeleteArgs rest with
      | error text => exact .refused _
      | ok parsed =>
        exact handled_edit err (fun s => .delex parsed.1 parsed.2 s)
          fun _ _ herror => absurd herror Bool.false_ne_true

/-- **Every stream command but `XREADGROUP` is a handler of one key.** -/
lemma handled_streamRun (db : Db) (args : List Bytes) {c : StreamCommand} (hc : c ≠ .xreadgroup) :
    c.HandlesKey err now db args := by
  cases c with
  | xadd => exact handled_cmdXadd err args
  | xdel => exact handled_cmdXdel err args
  | xtrim => exact handled_cmdXtrim err args
  | xsetid => exact handled_cmdXsetid err args
  | xgroup => exact handled_cmdXgroup err args
  | xreadgroup => exact absurd rfl hc
  | xack => exact handled_cmdXack err args
  | xclaim => exact handled_cmdXclaim err args
  | xautoclaim => exact handled_cmdXautoclaim err args
  | xackdel => exact handled_cmdXackdel err args
  | xdelex => exact handled_cmdXdelex err args

/-- What a handler does are steps of `DbSteps`. -/
lemma StreamCommand.Handled.dbSteps {purges : List Bytes} {f : Db → Db × RespFrame}
    (h : c.Handled err now args purges f) (db : Db) :
    DbSteps (commandEdits err now args c) db (f db).1 := by
  cases h with
  | refused reply => exact .refl db
  | acts key hsteps => exact (dbSteps_purgeExpiredKey db _ now).trans (hsteps _)

/-- **Every stream command drops expired keys and edits streams as its edits say.** -/
theorem dbSteps_run (now : Int64) (args : List Bytes) (db : Db) (c : StreamCommand) :
    DbSteps (commandEdits err now args c) db (c.run err args now db).1 := by
  by_cases hc : c = .xreadgroup
  · rw [hc]
    exact dbSteps_cmdXreadgroup err now args db
  · exact (handled_streamRun err db args hc).dbSteps err db

end streams

end Ratatosk.Engine
