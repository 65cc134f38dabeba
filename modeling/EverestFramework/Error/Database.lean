import Mathlib.Data.List.Nodup

/-!
# Errors, error filters and the error database

The global error manager (`ErrorManagerReqGlobal`) keeps the active errors in
an `ErrorDatabase` and looks them up through lists of `ErrorFilter`s.  The
database, the filters and the error type map are declared in headers outside
the modelled sources; this module models them from their contract:
`get_errors` returns the stored errors that match every filter, `add_error`
appends, and `remove_errors` removes and returns every matching error.

The identity of an error is the triple `(type, sub_type, origin)`.  The three
filters the manager builds from an error match exactly the stored errors of
the same identity (`getErrors_identityFilters`), which is all the handlers
ever ask of the database.
-/

namespace EverestFramework.Error.Database

/-- The type name of an error, a key of the `ErrorTypeMap`. -/
abbrev ErrorType := String

/-- The sub type of an error, chosen by the raising module. -/
abbrev ErrorSubType := String

/-- The module implementation an error originates from. -/
structure ImplementationIdentifier where
  moduleId : String
  implementationId : String
deriving DecidableEq, Repr

/--
An error instance.  The manager reads only the identity fields; `message`
stands for the rest of the payload, which is stored and handed to the
callbacks unchanged.
-/
structure Error where
  type : ErrorType
  subType : ErrorSubType
  origin : ImplementationIdentifier
  message : String
deriving DecidableEq, Repr

/-- The triple used for deduplication. -/
abbrev ErrorIdentity := ErrorType × ErrorSubType × ImplementationIdentifier

/-- The identity `(type, sub_type, origin)` of an error. -/
def Error.identity (error : Error) : ErrorIdentity :=
  (error.type, error.subType, error.origin)

/--
The filter kinds the error manager builds.  The framework's `ErrorFilter` has
further kinds (state, severity, time period, handle) that the manager never
uses.
-/
inductive ErrorFilter where
  | typeFilter (type : ErrorType)
  | subTypeFilter (subType : ErrorSubType)
  | originFilter (origin : ImplementationIdentifier)
deriving DecidableEq, Repr

/-- Whether a stored error passes one filter. -/
def ErrorFilter.matches : ErrorFilter → Error → Bool
  | .typeFilter type, error => error.type = type
  | .subTypeFilter subType, error => error.subType = subType
  | .originFilter origin, error => error.origin = origin

/--
The filter list `{TypeFilter(error.type), SubTypeFilter(error.sub_type),
OriginFilter(error.origin)}` that both handlers build for every database call.
-/
def identityFilters (error : Error) : List ErrorFilter :=
  [.typeFilter error.type, .subTypeFilter error.subType, .originFilter error.origin]

/-- The three identity filters accept exactly the errors of the same identity. -/
@[simp]
theorem all_identityFilters_matches (error candidate : Error) :
    ((identityFilters error).all fun filter => filter.matches candidate) =
      decide (candidate.identity = error.identity) := by
  simp [identityFilters, ErrorFilter.matches, Error.identity, Bool.and_assoc]

/-- Modelled from the spec: the error type map, of which the manager only asks `has`. -/
structure ErrorTypeMap where
  types : List ErrorType
deriving DecidableEq, Repr

/-- `ErrorTypeMap::has`: the type is declared. -/
def ErrorTypeMap.has (errorTypeMap : ErrorTypeMap) (type : ErrorType) : Bool :=
  errorTypeMap.types.contains type

/-- Modelled from the spec: the active errors, in insertion order. -/
structure ErrorDatabase where
  errors : List Error
deriving DecidableEq, Repr

namespace ErrorDatabase

/-- The empty database the manager starts from. -/
def empty : ErrorDatabase := ⟨[]⟩

/-- `get_errors`: the stored errors that match every filter. -/
def getErrors (database : ErrorDatabase) (filters : List ErrorFilter) : List Error :=
  database.errors.filter fun error => filters.all fun filter => filter.matches error

/-- `add_error`: append one error. -/
def addError (database : ErrorDatabase) (error : Error) : ErrorDatabase :=
  ⟨database.errors ++ [error]⟩

/-- `remove_errors`: drop every matching error and return the dropped ones. -/
def removeErrors (database : ErrorDatabase) (filters : List ErrorFilter) :
    ErrorDatabase × List Error :=
  (⟨database.errors.filter fun error => !filters.all fun filter => filter.matches error⟩,
    database.getErrors filters)

/-- The identities of the stored errors, with repetitions. -/
def identities (database : ErrorDatabase) : List ErrorIdentity :=
  database.errors.map Error.identity

/-- The stored errors of one identity. -/
def ofIdentity (database : ErrorDatabase) (identity : ErrorIdentity) : List Error :=
  database.errors.filter fun error => error.identity = identity

/-- The database without any error of one identity. -/
def eraseIdentity (database : ErrorDatabase) (identity : ErrorIdentity) : ErrorDatabase :=
  ⟨database.errors.filter fun error => !decide (error.identity = identity)⟩

@[simp]
theorem getErrors_identityFilters (database : ErrorDatabase) (error : Error) :
    database.getErrors (identityFilters error) = database.ofIdentity error.identity := by
  simp [getErrors, ofIdentity]

@[simp]
theorem removeErrors_identityFilters (database : ErrorDatabase) (error : Error) :
    database.removeErrors (identityFilters error) =
      (database.eraseIdentity error.identity, database.ofIdentity error.identity) := by
  simp [removeErrors, eraseIdentity]

@[simp]
theorem identities_empty : empty.identities = [] := rfl

@[simp]
theorem identities_addError (database : ErrorDatabase) (error : Error) :
    (database.addError error).identities = database.identities ++ [error.identity] := by
  simp [identities, addError]

theorem ofIdentity_eq_nil_iff (database : ErrorDatabase) (identity : ErrorIdentity) :
    database.ofIdentity identity = [] ↔ identity ∉ database.identities := by
  simp [ofIdentity, identities, List.filter_eq_nil_iff]

@[simp]
theorem ofIdentity_addError (database : ErrorDatabase) (error : Error) (identity : ErrorIdentity) :
    (database.addError error).ofIdentity identity =
      database.ofIdentity identity ++ if error.identity = identity then [error] else [] := by
  by_cases same : error.identity = identity <;> simp [ofIdentity, addError, List.filter_append, same]

theorem mem_identities_eraseIdentity (database : ErrorDatabase) (erased identity : ErrorIdentity) :
    identity ∈ (database.eraseIdentity erased).identities ↔
      identity ∈ database.identities ∧ identity ≠ erased := by
  simp only [identities, eraseIdentity, List.mem_map, List.mem_filter, Bool.not_eq_true',
    decide_eq_false_iff_not]
  constructor
  · rintro ⟨error, ⟨member, other⟩, rfl⟩
    exact ⟨⟨error, member, rfl⟩, other⟩
  · rintro ⟨⟨error, member, rfl⟩, other⟩
    exact ⟨error, ⟨member, other⟩, rfl⟩

/-- Without duplicate identities, at most one stored error has a given identity. -/
theorem length_ofIdentity_le_one {database : ErrorDatabase} (nodup : database.identities.Nodup)
    (identity : ErrorIdentity) : (database.ofIdentity identity).length ≤ 1 := by
  have sublist : ((database.ofIdentity identity).map Error.identity).Nodup :=
    nodup.sublist ((List.filter_sublist _).map _)
  have allSame : (database.ofIdentity identity).map Error.identity =
      List.replicate (database.ofIdentity identity).length identity :=
    List.eq_replicate_iff.2 ⟨List.length_map _ _, by
      simp only [ofIdentity, List.mem_map, List.mem_filter, decide_eq_true_eq]
      rintro _ ⟨error, ⟨-, same⟩, rfl⟩
      exact same⟩
  rw [allSame, List.nodup_replicate] at sublist
  exact sublist

/-- Under unique identities, an active identity has exactly one stored error. -/
theorem exists_ofIdentity_eq_singleton {database : ErrorDatabase}
    (nodup : database.identities.Nodup) {identity : ErrorIdentity}
    (active : identity ∈ database.identities) :
    ∃ stored, database.ofIdentity identity = [stored] := by
  have nonempty : database.ofIdentity identity ≠ [] :=
    fun empty => (database.ofIdentity_eq_nil_iff identity).1 empty active
  have atMostOne := length_ofIdentity_le_one nodup identity
  exact List.length_eq_one.1 (by
    have := List.length_pos.2 nonempty
    omega)

theorem identities_eraseIdentity_sublist (database : ErrorDatabase) (identity : ErrorIdentity) :
    (database.eraseIdentity identity).identities.Sublist database.identities :=
  (List.filter_sublist _).map _

/--
Under unique identities, the stored error of an active identity splits the
database, no other stored error has that identity, and erasing the identity
removes just that error.
-/
theorem eq_append_cons_of_mem_identities {database : ErrorDatabase}
    (nodup : database.identities.Nodup) {identity : ErrorIdentity}
    (active : identity ∈ database.identities) :
    ∃ before stored after, database.errors = before ++ stored :: after ∧
      stored.identity = identity ∧ (∀ other ∈ before ++ after, other.identity ≠ identity) ∧
      database.eraseIdentity identity = ⟨before ++ after⟩ := by
  obtain ⟨stored, member, rfl⟩ := List.mem_map.1 active
  obtain ⟨before, after, split⟩ := List.append_of_mem member
  have unique : stored.identity ∉ (before ++ after).map Error.identity := by
    have middle := nodup
    rw [identities, split, List.map_append, List.map_cons, List.nodup_middle,
      ← List.map_append] at middle
    exact (List.nodup_cons.1 middle).1
  have others : ∀ other ∈ before ++ after, other.identity ≠ stored.identity :=
    fun other otherMember same => unique (List.mem_map.2 ⟨other, otherMember, same⟩)
  refine ⟨before, stored, after, split, rfl, others, ?_⟩
  have kept : ∀ other ∈ before ++ after, (!decide (other.identity = stored.identity)) = true := by
    simpa using others
  rw [List.forall_mem_append] at kept
  simp [eraseIdentity, split, List.filter_append, List.filter_eq_self.2 kept.1,
    List.filter_eq_self.2 kept.2]

end ErrorDatabase

end EverestFramework.Error.Database
