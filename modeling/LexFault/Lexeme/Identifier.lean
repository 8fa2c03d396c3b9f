/-!
# Raw identifiers

A raw identifier is a name behind a marker that lets a keyword be used as a name. A few keywords keep
their meaning even there and make no identifier.
-/

namespace LexFault.Identifier

/-- What a raw identifier starts with. -/
def rawLead : String := "r#"

/-- The names that may not be raw, in ascending order. -/
def reserved : List String := ["Self", "crate", "extern", "self", "super"]

/-- Whether a name may not be raw. -/
def isReserved (name : String) : Bool := reserved.contains name

/-- Whether an identifier starts as a raw one does. -/
def isRaw (identifier : String) : Bool := rawLead.toList.isPrefixOf identifier.toList

/-- Whether an identifier is a reserved name made raw. -/
def isReservedRaw (identifier : String) : Bool :=
  reserved.any fun name => identifier == rawLead ++ name

end LexFault.Identifier
