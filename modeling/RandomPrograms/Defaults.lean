/-! The limits that hold where none is set. -/

namespace RandomPrograms.Defaults

def maxIdentifierLength : UInt64 := 12

def maxInt : UInt64 := 128

def sizeBudget : UInt64 := 512

def blockSizeBudget : UInt64 := 64

def maxIndentLevel : UInt64 := 3

def maxIdentifierAttempts : UInt64 := 1000

def indent : String := "  "

end RandomPrograms.Defaults
