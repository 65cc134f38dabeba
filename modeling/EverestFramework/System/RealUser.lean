import Mathlib.Logic.Basic

/-!
# `set_real_user`

`boot` (base build) switches the manager to `run_as_user` once the modules
are started.  `set_real_user` looks the user up with `get_passwd_entry`
(`getpwnam`, then `getgrouplist` into a buffer of 50 group ids) and then
calls `setgroups`, `setgid` and `setuid`, in that order.  It returns the text
of the first step that fails, or an empty text.

The kernel decides each of these calls from the capabilities of the process.
`setgroups` needs `CAP_SETGID`.  With `CAP_SETGID`, `setgid` sets the group
id, and with `CAP_SETUID`, `setuid` sets the user id; without the capability,
each succeeds only for the id the process already has.  A `setuid` from root
to another user clears the capabilities, since the manager never sets
`SECBIT_KEEP_CAPS` (`keep_caps` is defined but not called).

* `setRealUser_succeeds_iff` says when the switch succeeds: the user must be
  found with at most 50 groups, and the process needs `CAP_SETGID` and either
  `CAP_SETUID` or the user's uid already.  On success the process has the
  user's ids and groups.
* `setRealUser_ne_setgid_failed` says `"setgid failed"` is never returned:
  `setgroups` already needed `CAP_SETGID`.
* `setRealUser_of_capSetgid` covers a process with `CAP_SETGID` but without
  `CAP_SETUID`.  It changes the groups and the group id and then fails at
  `setuid`, and nothing is undone.
-/

namespace EverestFramework.System.RealUser

/-- A user id. -/
abbrev Uid := Nat

/-- A group id. -/
abbrev Gid := Nat

/-- The fields of the `passwd` entry that `get_passwd_entry` reads. -/
structure PasswdEntry where
  /-- `pw_uid`. -/
  uid : Uid
  /-- `pw_gid`. -/
  gid : Gid
deriving DecidableEq, Repr

/-- The user and group databases, as `getpwnam` and `getgrouplist` see them. -/
structure UserDatabase where
  /-- `getpwnam`. -/
  passwd : String → Option PasswdEntry
  /-- Every group of a user with the given primary group, as `getgrouplist` lists them. -/
  groupsOf : String → Gid → List Gid

/-- `max_supplementary_groups`. -/
def maxSupplementaryGroups : Nat := 50

/--
`getgrouplist(user, group, groups, &ngroups)`: the groups when they fit in
`ngroups` entries, `-1` (`none`) otherwise.
-/
def getgrouplist (database : UserDatabase) (userName : String) (group : Gid) (ngroups : Nat) :
    Option (List Gid) :=
  if (database.groupsOf userName group).length ≤ ngroups then some (database.groupsOf userName group)
  else none

/-- `GetPasswdEntryResult` without an error: the ids and groups to switch to. -/
structure UserIds where
  uid : Uid
  gid : Gid
  groups : List Gid
deriving DecidableEq, Repr

/-- `get_passwd_entry`: a `GetPasswdEntryResult` is an error text or the user's ids and groups. -/
def getPasswdEntry (database : UserDatabase) (userName : String) : Except String UserIds :=
  match database.passwd userName with
  | none => .error ("Could not get passwd entry for user name: " ++ userName)
  | some entry =>
    match getgrouplist database userName entry.gid maxSupplementaryGroups with
    | none => .error ("Could not get supplementary groups for user name: " ++ userName)
    | some groups => .ok ⟨entry.uid, entry.gid, groups⟩

/-! ## The credentials of the process -/

/--
The credentials `set_real_user` changes.  The real, effective and saved ids
are equal throughout, so one id stands for the three.
-/
structure Credentials where
  uid : Uid
  gid : Gid
  groups : List Gid
  /-- `CAP_SETUID` in the effective set. -/
  capSetuid : Bool
  /-- `CAP_SETGID` in the effective set. -/
  capSetgid : Bool
deriving DecidableEq, Repr

namespace Credentials

/-- `setgroups(size, list)`: needs `CAP_SETGID`; `none` is the `-1` of a failure. -/
def setgroups (credentials : Credentials) (groups : List Gid) : Option Credentials :=
  if credentials.capSetgid then some { credentials with groups } else none

/-- `setgid(gid)`: any group id with `CAP_SETGID`, otherwise only the one the process has. -/
def setgid (credentials : Credentials) (gid : Gid) : Option Credentials :=
  if credentials.capSetgid then some { credentials with gid }
  else if gid = credentials.gid then some credentials
  else none

/--
`setuid(uid)`: any user id with `CAP_SETUID`, otherwise only the one the
process has.  Leaving root for another user clears the capabilities.
-/
def setuid (credentials : Credentials) (uid : Uid) : Option Credentials :=
  if credentials.capSetuid then
    if credentials.uid = 0 ∧ uid ≠ 0 then
      some { credentials with uid, capSetuid := false, capSetgid := false }
    else some { credentials with uid }
  else if uid = credentials.uid then some credentials
  else none

/-- The credentials after a complete switch to the user's ids. -/
def switchTo (credentials : Credentials) (ids : UserIds) : Credentials :=
  let switched := { credentials with uid := ids.uid, gid := ids.gid, groups := ids.groups }
  if credentials.capSetuid ∧ credentials.uid = 0 ∧ ids.uid ≠ 0 then
    { switched with capSetuid := false, capSetgid := false }
  else switched

@[simp]
theorem switchTo_uid (credentials : Credentials) (ids : UserIds) :
    (credentials.switchTo ids).uid = ids.uid := by
  unfold switchTo; split <;> rfl

@[simp]
theorem switchTo_gid (credentials : Credentials) (ids : UserIds) :
    (credentials.switchTo ids).gid = ids.gid := by
  unfold switchTo; split <;> rfl

@[simp]
theorem switchTo_groups (credentials : Credentials) (ids : UserIds) :
    (credentials.switchTo ids).groups = ids.groups := by
  unfold switchTo; split <;> rfl

/-- The process may take the user's ids: `CAP_SETGID`, and `CAP_SETUID` unless it has the uid already. -/
def maySwitchTo (credentials : Credentials) (ids : UserIds) : Bool :=
  credentials.capSetgid && (credentials.capSetuid || ids.uid == credentials.uid)

@[simp]
theorem maySwitchTo_eq_true_iff (credentials : Credentials) (ids : UserIds) :
    credentials.maySwitchTo ids = true ↔
      credentials.capSetgid = true ∧ (credentials.capSetuid = true ∨ ids.uid = credentials.uid) := by
  simp [maySwitchTo]

end Credentials

/--
`set_real_user(user_name)`: the error text, empty on success, and the
credentials the process has afterwards.
-/
def setRealUser (database : UserDatabase) (userName : String) (credentials : Credentials) :
    String × Credentials :=
  match getPasswdEntry database userName with
  | .error message => (message, credentials)
  | .ok entry =>
    match credentials.setgroups entry.groups with
    | none => ("setgroups failed", credentials)
    | some grouped =>
      match grouped.setgid entry.gid with
      | none => ("setgid failed", grouped)
      | some regrouped =>
        match regrouped.setuid entry.uid with
        | none => ("setuid failed", regrouped)
        | some switched => ("", switched)

/-! ## What `get_passwd_entry` finds -/

theorem getPasswdEntry_eq_ok_iff (database : UserDatabase) (userName : String) (ids : UserIds) :
    getPasswdEntry database userName = .ok ids ↔
      ∃ entry, database.passwd userName = some entry ∧
        (database.groupsOf userName entry.gid).length ≤ maxSupplementaryGroups ∧
        ids = ⟨entry.uid, entry.gid, database.groupsOf userName entry.gid⟩ := by
  unfold getPasswdEntry
  cases database.passwd userName with
  | none => simp
  | some entry =>
    unfold getgrouplist
    by_cases fits : (database.groupsOf userName entry.gid).length ≤ maxSupplementaryGroups
    · simp [fits, eq_comm]
    · simp [fits]

/-- Every error of `get_passwd_entry` says what it could not get, and for which user. -/
theorem getPasswdEntry_error_names_user {database : UserDatabase} {userName message : String}
    (failed : getPasswdEntry database userName = .error message) :
    ∃ what, message = "Could not get " ++ what ++ userName := by
  unfold getPasswdEntry at failed
  split at failed
  · cases failed; exact ⟨"passwd entry for user name: ", rfl⟩
  · split at failed
    · cases failed; exact ⟨"supplementary groups for user name: ", rfl⟩
    · cases failed

/-- An error of `get_passwd_entry` is longer than `"Could not get"`. -/
theorem length_lt_of_getPasswdEntry_error {database : UserDatabase} {userName message : String}
    (failed : getPasswdEntry database userName = .error message) : 13 < message.length := by
  obtain ⟨what, rfl⟩ := getPasswdEntry_error_names_user failed
  simp only [String.length_append]
  have : "Could not get ".length = 14 := by decide
  omega

/-! ## The outcome of `set_real_user` -/

section Outcome

variable (database : UserDatabase) (userName : String) (credentials : Credentials)

theorem setRealUser_of_error {message : String}
    (failed : getPasswdEntry database userName = .error message) :
    setRealUser database userName credentials = (message, credentials) := by
  simp only [setRealUser, failed]

theorem setRealUser_without_capSetgid {ids : UserIds}
    (found : getPasswdEntry database userName = .ok ids) (noCap : credentials.capSetgid = false) :
    setRealUser database userName credentials = ("setgroups failed", credentials) := by
  simp only [setRealUser, found, Credentials.setgroups, noCap, Bool.false_eq_true, if_false]

/--
With `CAP_SETGID` the groups and the group id are always switched; the
`setuid` then fails exactly when the process lacks `CAP_SETUID` and has
another uid.
-/
theorem setRealUser_of_capSetgid {ids : UserIds}
    (found : getPasswdEntry database userName = .ok ids) (capSetgid : credentials.capSetgid = true) :
    setRealUser database userName credentials =
      if credentials.capSetuid = false ∧ ids.uid ≠ credentials.uid then
        ("setuid failed", { credentials with gid := ids.gid, groups := ids.groups })
      else ("", credentials.switchTo ids) := by
  simp only [setRealUser, found, Credentials.setgroups, Credentials.setgid, capSetgid, if_true]
  cases capSetuid : credentials.capSetuid
  · by_cases same : ids.uid = credentials.uid
    · simp [Credentials.setuid, Credentials.switchTo, capSetuid, capSetgid, same]
    · simp [Credentials.setuid, capSetuid, same]
  · by_cases leavesRoot : credentials.uid = 0 ∧ ids.uid ≠ 0
    · simp [Credentials.setuid, Credentials.switchTo, capSetuid, leavesRoot]
    · simp [Credentials.setuid, Credentials.switchTo, capSetuid, capSetgid, leavesRoot]

/-- A user that is found is switched to exactly when the process may take the user's ids. -/
theorem setRealUser_fst_eq_empty_iff {ids : UserIds}
    (found : getPasswdEntry database userName = .ok ids) :
    (setRealUser database userName credentials).1 = "" ↔ credentials.maySwitchTo ids = true := by
  cases capSetgid : credentials.capSetgid
  · simp [setRealUser_without_capSetgid database userName credentials found capSetgid, capSetgid]
  · rw [setRealUser_of_capSetgid database userName credentials found capSetgid]
    cases capSetuid : credentials.capSetuid <;> by_cases same : ids.uid = credentials.uid <;>
      simp [capSetgid, capSetuid, same]

theorem setRealUser_snd_of_maySwitchTo {ids : UserIds}
    (found : getPasswdEntry database userName = .ok ids) (allowed : credentials.maySwitchTo ids = true) :
    (setRealUser database userName credentials).2 = credentials.switchTo ids := by
  obtain ⟨capSetgid, permitted⟩ := (Credentials.maySwitchTo_eq_true_iff _ _).mp allowed
  have notFailed : ¬ (credentials.capSetuid = false ∧ ids.uid ≠ credentials.uid) := by
    rintro ⟨noCap, other⟩
    rcases permitted with capSetuid | same
    · simp [capSetuid] at noCap
    · exact other same
  rw [setRealUser_of_capSetgid database userName credentials found capSetgid, if_neg notFailed]

/-- A user that is not found is never switched to. -/
theorem setRealUser_fst_ne_empty_of_error {message : String}
    (failed : getPasswdEntry database userName = .error message) :
    (setRealUser database userName credentials).1 ≠ "" := by
  have long := length_lt_of_getPasswdEntry_error failed
  rw [setRealUser_of_error database userName credentials failed]
  rintro rfl
  exact absurd long (by decide)

end Outcome

/--
`set_real_user` succeeds exactly when the user is found with at most 50
groups and the process may set both ids: it holds `CAP_SETGID`, and
`CAP_SETUID` unless it already runs as the user's uid.  The process then has
the user's ids and groups (`switchTo`).
-/
theorem setRealUser_succeeds_iff (database : UserDatabase) (userName : String)
    (credentials : Credentials) :
    (setRealUser database userName credentials).1 = "" ↔
      ∃ ids, getPasswdEntry database userName = .ok ids ∧ credentials.capSetgid = true ∧
        (credentials.capSetuid = true ∨ ids.uid = credentials.uid) ∧
        (setRealUser database userName credentials).2 = credentials.switchTo ids := by
  cases lookup : getPasswdEntry database userName with
  | error message =>
    simp [setRealUser_fst_ne_empty_of_error database userName credentials lookup]
  | ok ids =>
    rw [setRealUser_fst_eq_empty_iff database userName credentials lookup]
    constructor
    · intro allowed
      obtain ⟨capSetgid, permitted⟩ := (Credentials.maySwitchTo_eq_true_iff _ _).mp allowed
      exact ⟨ids, rfl, capSetgid, permitted,
        setRealUser_snd_of_maySwitchTo database userName credentials lookup allowed⟩
    · rintro ⟨_, ⟨⟩, capSetgid, permitted, -⟩
      exact (Credentials.maySwitchTo_eq_true_iff _ _).mpr ⟨capSetgid, permitted⟩

/-- `"setgid failed"` is never returned: `setgroups` already needed `CAP_SETGID`. -/
theorem setRealUser_ne_setgid_failed (database : UserDatabase) (userName : String)
    (credentials : Credentials) :
    (setRealUser database userName credentials).1 ≠ "setgid failed" := by
  cases lookup : getPasswdEntry database userName with
  | error message =>
    have long := length_lt_of_getPasswdEntry_error lookup
    rw [setRealUser_of_error database userName credentials lookup]
    rintro rfl
    exact absurd long (by decide)
  | ok ids =>
    cases capSetgid : credentials.capSetgid
    · rw [setRealUser_without_capSetgid database userName credentials lookup capSetgid]
      dsimp only
      decide
    · rw [setRealUser_of_capSetgid database userName credentials lookup capSetgid]
      split <;> (dsimp only; decide)

end EverestFramework.System.RealUser
