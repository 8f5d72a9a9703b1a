import IcuMessage.Plural.Condition

/-!
# Ordinal rules

The conditions on numbers for the categories of ordinal plurals.  Languages with
the same conditions stand together, and a language that does not stand here has
one category for all numbers.
-/

namespace IcuMessage.PluralRules

/-- The languages with ordinal rules, in groups that share them. -/
def ordinalGroups : List (List String × PluralRules) :=
  [(["sv"],
      [(.one, [[restIs .n 10 [(1, 1), (2, 2)], restIsNot .n 100 [(11, 11), (12, 12)]]])]),
    (["fil", "fr", "ga", "ht", "hy", "lo", "ms", "ro", "vi"],
      [(.one, [[is .n [(1, 1)]]])]),
    (["hu"], [(.one, [[is .n [(1, 1), (5, 5)]]])]),
    (["es"], [(.one, [[restIs .n 10 [(1, 1), (3, 3)], restIsNot .n 100 [(11, 11)]]])]),
    (["ne"], [(.one, [[is .n [(1, 4)]]])]),
    (["be"],
      [(.few, [[restIs .n 10 [(2, 2), (3, 3)], restIsNot .n 100 [(12, 12), (13, 13)]]])]),
    (["uk"], [(.few, [[restIs .n 10 [(3, 3)], restIsNot .n 100 [(13, 13)]]])]),
    (["tk"], [(.few, [[restIs .n 10 [(6, 6), (9, 9)]], [is .n [(10, 10)]]])]),
    (["kk"],
      [(.many, [[restIs .n 10 [(6, 6)]], [restIs .n 10 [(9, 9)]],
        [restIs .n 10 [(0, 0)], isNot .n [(0, 0)]]])]),
    (["it", "lld", "sc", "vec"],
      [(.many, [[is .n [(11, 11), (8, 8), (80, 80), (800, 800)]]])]),
    (["lij", "scn"], [(.many, [[is .n [(11, 11), (8, 8), (80, 89), (800, 899)]]])]),
    (["ka"],
      [(.one, [[is .i [(1, 1)]]]),
       (.many, [[is .i [(0, 0)]], [restIs .i 100 [(2, 20), (40, 40), (60, 60), (80, 80)]]])]),
    (["sq"],
      [(.one, [[is .n [(1, 1)]]]),
       (.many, [[restIs .n 10 [(4, 4)], restIsNot .n 100 [(14, 14)]]])]),
    (["en", "hi-latn"],
      [(.one, [[restIs .n 10 [(1, 1)], restIsNot .n 100 [(11, 11)]]]),
       (.two, [[restIs .n 10 [(2, 2)], restIsNot .n 100 [(12, 12)]]]),
       (.few, [[restIs .n 10 [(3, 3)], restIsNot .n 100 [(13, 13)]]])]),
    (["kok", "kok-latn", "mr"],
      [(.one, [[is .n [(1, 1)]]]), (.two, [[is .n [(2, 2), (3, 3)]]]),
       (.few, [[is .n [(4, 4)]]])]),
    (["gd"],
      [(.one, [[is .n [(1, 1), (11, 11)]]]), (.two, [[is .n [(2, 2), (12, 12)]]]),
       (.few, [[is .n [(3, 3), (13, 13)]]])]),
    (["ca"],
      [(.one, [[is .n [(1, 1), (3, 3)]]]), (.two, [[is .n [(2, 2)]]]),
       (.few, [[is .n [(4, 4)]]])]),
    (["mk"],
      [(.one, [[restIs .i 10 [(1, 1)], restIsNot .i 100 [(11, 11)]]]),
       (.two, [[restIs .i 10 [(2, 2)], restIsNot .i 100 [(12, 12)]]]),
       (.many, [[restIs .i 10 [(7, 7), (8, 8)], restIsNot .i 100 [(17, 17), (18, 18)]]])]),
    (["az"],
      [(.one, [[restIs .i 10 [(1, 1), (2, 2), (5, 5), (7, 7), (8, 8)]],
        [restIs .i 100 [(20, 20), (50, 50), (70, 70), (80, 80)]]]),
       (.few, [[restIs .i 10 [(3, 3), (4, 4)]],
         [restIs .i 1000 [(100, 100), (200, 200), (300, 300), (400, 400), (500, 500),
           (600, 600), (700, 700), (800, 800), (900, 900)]]]),
       (.many, [[is .i [(0, 0)]], [restIs .i 10 [(6, 6)]],
         [restIs .i 100 [(40, 40), (60, 60), (90, 90)]]])]),
    (["gu", "hi"],
      [(.one, [[is .n [(1, 1)]]]), (.two, [[is .n [(2, 2), (3, 3)]]]),
       (.few, [[is .n [(4, 4)]]]), (.many, [[is .n [(6, 6)]]])]),
    (["as", "bn"],
      [(.one, [[is .n [(1, 1), (5, 5), (7, 7), (8, 8), (9, 9), (10, 10)]]]),
       (.two, [[is .n [(2, 2), (3, 3)]]]), (.few, [[is .n [(4, 4)]]]),
       (.many, [[is .n [(6, 6)]]])]),
    (["or"],
      [(.one, [[is .n [(1, 1), (5, 5), (7, 9)]]]), (.two, [[is .n [(2, 2), (3, 3)]]]),
       (.few, [[is .n [(4, 4)]]]), (.many, [[is .n [(6, 6)]]])]),
    (["blo"],
      [(.zero, [[is .i [(0, 0)]]]), (.one, [[is .i [(1, 1)]]]),
       (.few, [[is .i [(2, 2), (3, 3), (4, 4), (5, 5), (6, 6)]]])]),
    (["cy"],
      [(.zero, [[is .n [(0, 0), (7, 7), (8, 8), (9, 9)]]]), (.one, [[is .n [(1, 1)]]]),
       (.two, [[is .n [(2, 2)]]]), (.few, [[is .n [(3, 3), (4, 4)]]]),
       (.many, [[is .n [(5, 5), (6, 6)]]])])]

end IcuMessage.PluralRules
