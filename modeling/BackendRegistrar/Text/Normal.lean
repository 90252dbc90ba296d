import BackendRegistrar.Text.Normal.Parts
import BackendRegistrar.Text.Normal.Rank

/-! The normal form of a text: marks stand in the order of their ranks, and parts that make a
character are put together. Texts that are to be read as one have one normal form. -/

namespace BackendRegistrar.Text.Normal

/-- How often parts may have parts again. -/
def depth : Nat := 3

def separate : Nat → List Nat → List Nat
  | 0, codes => codes
  | rounds + 1, codes => separate rounds (codes.flatMap parts)

/-- Puts a code point before others, but behind the marks there that rank lower. -/
def settle (code : Nat) : List Nat → List Nat
  | [] => [code]
  | next :: rest =>
    if 0 < rank next ∧ rank next < rank code then next :: settle code rest
    else code :: next :: rest

/-- Puts together what follows a base and the marks that stay on it. A mark reaches the base
unless one of its rank, or a higher one, stays in between. -/
def join (base : Nat) (marks : List Nat) : List Nat → List Nat
  | [] => base :: marks
  | code :: rest =>
    let reaches := marks.getLast?.all (rank · < rank code)
    match if reaches then joined? base code else none with
    | some whole => join whole marks rest
    | none =>
      if rank code = 0 then base :: marks ++ join code [] rest
      else join base (marks ++ [code]) rest

def compose : List Nat → List Nat
  | [] => []
  | base :: rest => join base [] rest

def normalize (cs : List Char) : List Char :=
  (compose ((separate depth (cs.map Char.toNat)).foldr settle [])).map Char.ofNat

end BackendRegistrar.Text.Normal
