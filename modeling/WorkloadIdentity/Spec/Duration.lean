namespace WorkloadIdentity.Duration

/-- The rank of a unit, the longest one first. -/
def rank? (c : Char) : Option Nat :=
  if c = 'h' then some 3 else if c = 'm' then some 2 else if c = 's' then some 1 else none

/-- Reads on after `digits` digits, units below `bound` being still allowed. -/
def accepts (digits bound : Nat) : List Char → Bool
  | [] => digits = 0
  | c :: rest =>
    if c.isDigit then accepts (digits + 1) bound rest
    else
      match rank? c with
      | none => false
      | some rank => digits ≠ 0 && rank < bound && accepts 0 rank rest

/-- Whether a text is a duration, a number of hours, of minutes and of seconds in this order, such
as `1h30m`. Each of the three may be missing, but not all. -/
def isDuration (text : String) : Bool := !text.isEmpty && accepts 0 4 text.toList

end WorkloadIdentity.Duration
