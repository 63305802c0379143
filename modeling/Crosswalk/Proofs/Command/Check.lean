import Crosswalk.Proofs.Command.Session

/-!
# What a check answers

A check reads what every command reads and prints the reports of all plans, one after another.
Only then does it give its verdict. It counts the destination fields that nothing feeds, over all
plans; where none may be left unfed and there are some, it fails with their number, and otherwise
it prints how many mappings it has looked at.

Whether a plan can be reported is another matter. A report spells types out, and to spell a type
that leads back to itself comes to no end; a check that meets one gives no verdict at all.
-/

namespace Crosswalk

variable {w : World} {named : Option Path} {file : Path} {p : Program} {settings : Settings}
  {a : Analysis} {t : TypeTable} {plans : List Plan}

end Crosswalk
