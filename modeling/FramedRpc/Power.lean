namespace FramedRpc

-- Powers with natural exponents are those that come with the numbers themselves, also in a module that sees others.
instance (priority := 10000) naturalPower {α : Type} [NatPow α] : Pow α Nat := instPowNat

end FramedRpc
