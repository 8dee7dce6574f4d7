import Rehearsal.Unicode.Category

/-!
# Marks

Characters that are put on the one before them, or beside it. Those that take no place of their own
are `nonspacing`.
-/

namespace Rehearsal.Unicode.Mark

/-- Marks that take no place of their own. The categories do not list all of them yet. -/
def nonspacing : CodeSet :=
  .unions [Category.nonspacingMark.codePoints, Category.enclosingMark.codePoints,
    .ofText "1ACF-1ADD 1AE0-1AEB 10EFA-10EFB 11B60 11B62-11B64 11B66 1E6E3 1E6E6 1E6EE-1E6EF 1E6F5"]

/-- All marks. -/
def all : CodeSet :=
  .unions [nonspacing, Category.spacingMark.codePoints, .ofText "11B61 11B65 11B67"]

end Rehearsal.Unicode.Mark
