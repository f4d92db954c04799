/-! The words for truth values. -/

namespace RandomPrograms.Text

def truth (b : Bool) : String := if b then "true" else "false"

end RandomPrograms.Text
