import IcuMessage.Plural.Condition

/-!
# Cardinal rules

The conditions on numbers for the categories of cardinal plurals.  Languages with
the same conditions stand together, and a language that does not stand here has
one category for all numbers.
-/

namespace IcuMessage.PluralRules

/-- The languages with cardinal rules, in groups that share them. -/
def cardinalGroups : List (List String × PluralRules) :=
  [(["am", "as", "bn", "doi", "fa", "gu", "hi", "kn", "kok", "kok-latn", "pcm", "zu"],
      [(.one, [[is .i [(0, 0)]], [is .n [(1, 1)]]])]),
    (["hy"], [(.one, belowTwo)]),
    (["ast", "de", "en", "et", "fi", "fy", "gl", "hi-latn", "ia", "ie", "lij", "nl", "sc", "sv",
      "sw", "ur"],
      [(.one, singleUnit)]),
    (["si"], [(.one, [[is .n [(0, 0), (1, 1)]], [is .i [(0, 0)], is .f [(1, 1)]]])]),
    (["ak", "bho", "csw", "nso", "pa", "ti"],
      [(.one, [[is .n [(0, 1)]]])]),
    (["af", "az", "bg", "brx", "chr", "ckb", "ee", "el", "eo", "eu", "fo", "ha", "hu", "ka",
      "kk", "ks", "ku", "ky", "lb", "ml", "mn", "mr", "nb", "ne", "nn", "no", "om", "or", "ps",
      "rm", "sd", "so", "sq", "st", "syr", "ta", "te", "tk", "tn", "tr", "ug", "uz", "xh"],
      [(.one, [[is .n [(1, 1)]]])]),
    (["da"], [(.one, [[is .n [(1, 1)]], [isNot .t [(0, 0)], is .i [(0, 0), (1, 1)]]])]),
    (["is"],
      [(.one, [[is .t [(0, 0)], restIs .i 10 [(1, 1)], restIsNot .i 100 [(11, 11)]],
        [restIs .t 10 [(1, 1)], restIsNot .t 100 [(11, 11)]]])]),
    (["mk"],
      [(.one, [[is .v [(0, 0)], restIs .i 10 [(1, 1)], restIsNot .i 100 [(11, 11)]],
        [restIs .f 10 [(1, 1)], restIsNot .f 100 [(11, 11)]]])]),
    (["ceb", "fil"],
      [(.one, [[is .v [(0, 0)], is .i [(1, 1), (2, 2), (3, 3)]],
        [is .v [(0, 0)], restIsNot .i 10 [(4, 4), (6, 6), (9, 9)]],
        [isNot .v [(0, 0)], restIsNot .f 10 [(4, 4), (6, 6), (9, 9)]]])]),
    (["lv", "prg"],
      [(.zero, [[restIs .n 10 [(0, 0)]], [restIs .n 100 [(11, 19)]],
        [is .v [(2, 2)], restIs .f 100 [(11, 19)]]]),
       (.one, [[restIs .n 10 [(1, 1)], restIsNot .n 100 [(11, 11)]],
         [is .v [(2, 2)], restIs .f 10 [(1, 1)], restIsNot .f 100 [(11, 11)]],
         [isNot .v [(2, 2)], restIs .f 10 [(1, 1)]]])]),
    (["blo", "cv", "ksh"], [(.zero, [[is .n [(0, 0)]]]), (.one, [[is .n [(1, 1)]]])]),
    (["he"],
      [(.one, [[is .i [(1, 1)], is .v [(0, 0)]], [is .i [(0, 0)], isNot .v [(0, 0)]]]),
       (.two, [[is .i [(2, 2)], is .v [(0, 0)]]])]),
    (["sat"],
      [(.one, [[is .n [(1, 1)]]]), (.two, [[is .n [(2, 2)]]])]),
    (["ro"],
      [(.one, singleUnit),
       (.few, [[isNot .v [(0, 0)]], [is .n [(0, 0)]],
         [isNot .n [(1, 1)], restIs .n 100 [(1, 19)]]])]),
    (["bs", "hr", "sr"],
      [(.one, [[is .v [(0, 0)], restIs .i 10 [(1, 1)], restIsNot .i 100 [(11, 11)]],
        [restIs .f 10 [(1, 1)], restIsNot .f 100 [(11, 11)]]]),
       (.few, [[is .v [(0, 0)], restIs .i 10 [(2, 4)], restIsNot .i 100 [(12, 14)]],
         [restIs .f 10 [(2, 4)], restIsNot .f 100 [(12, 14)]]])]),
    (["fr", "ht", "pt"], [(.one, belowTwo), (.many, wholeMillions)]),
    (["ca", "it", "lld", "pt-pt", "scn", "vec"],
      [(.one, singleUnit), (.many, wholeMillions)]),
    (["es"], [(.one, [[is .n [(1, 1)]]]), (.many, wholeMillions)]),
    (["gd"],
      [(.one, [[is .n [(1, 1), (11, 11)]]]), (.two, [[is .n [(2, 2), (12, 12)]]]),
       (.few, [[is .n [(3, 10), (13, 19)]]])]),
    (["sl"],
      [(.one, [[is .v [(0, 0)], restIs .i 100 [(1, 1)]]]),
       (.two, [[is .v [(0, 0)], restIs .i 100 [(2, 2)]]]),
       (.few, [[is .v [(0, 0)], restIs .i 100 [(3, 4)]], [isNot .v [(0, 0)]]])]),
    (["dsb", "hsb"],
      [(.one, [[is .v [(0, 0)], restIs .i 100 [(1, 1)]], [restIs .f 100 [(1, 1)]]]),
       (.two, [[is .v [(0, 0)], restIs .i 100 [(2, 2)]], [restIs .f 100 [(2, 2)]]]),
       (.few, [[is .v [(0, 0)], restIs .i 100 [(3, 4)]], [restIs .f 100 [(3, 4)]]])]),
    (["cs", "sk"],
      [(.one, singleUnit), (.few, [[is .i [(2, 4)], is .v [(0, 0)]]]),
       (.many, [[isNot .v [(0, 0)]]])]),
    (["pl"],
      [(.one, singleUnit),
       (.few, [[is .v [(0, 0)], restIs .i 10 [(2, 4)], restIsNot .i 100 [(12, 14)]]]),
       (.many, [[is .v [(0, 0)], isNot .i [(1, 1)], restIs .i 10 [(0, 1)]],
         [is .v [(0, 0)], restIs .i 10 [(5, 9)]],
         [is .v [(0, 0)], restIs .i 100 [(12, 14)]]])]),
    (["be"],
      [(.one, [[restIs .n 10 [(1, 1)], restIsNot .n 100 [(11, 11)]]]),
       (.few, [[restIs .n 10 [(2, 4)], restIsNot .n 100 [(12, 14)]]]),
       (.many, [[restIs .n 10 [(0, 0)]], [restIs .n 10 [(5, 9)]],
         [restIs .n 100 [(11, 14)]]])]),
    (["lt"],
      [(.one, [[restIs .n 10 [(1, 1)], restIsNot .n 100 [(11, 19)]]]),
       (.few, [[restIs .n 10 [(2, 9)], restIsNot .n 100 [(11, 19)]]]),
       (.many, [[isNot .f [(0, 0)]]])]),
    (["ru", "uk"],
      [(.one, [[is .v [(0, 0)], restIs .i 10 [(1, 1)], restIsNot .i 100 [(11, 11)]]]),
       (.few, [[is .v [(0, 0)], restIs .i 10 [(2, 4)], restIsNot .i 100 [(12, 14)]]]),
       (.many, [[is .v [(0, 0)], restIs .i 10 [(0, 0)]],
         [is .v [(0, 0)], restIs .i 10 [(5, 9)]],
         [is .v [(0, 0)], restIs .i 100 [(11, 14)]]])]),
    (["br"],
      [(.one, [[restIs .n 10 [(1, 1)], restIsNot .n 100 [(11, 11), (71, 71), (91, 91)]]]),
       (.two, [[restIs .n 10 [(2, 2)], restIsNot .n 100 [(12, 12), (72, 72), (92, 92)]]]),
       (.few, [[restIs .n 10 [(3, 4), (9, 9)],
         restIsNot .n 100 [(10, 19), (70, 79), (90, 99)]]]),
       (.many, [[isNot .n [(0, 0)], restIs .n 1000000 [(0, 0)]]])]),
    (["mt"],
      [(.one, [[is .n [(1, 1)]]]), (.two, [[is .n [(2, 2)]]]),
       (.few, [[is .n [(0, 0)]], [restIs .n 100 [(3, 10)]]]),
       (.many, [[restIs .n 100 [(11, 19)]]])]),
    (["ga"],
      [(.one, [[is .n [(1, 1)]]]), (.two, [[is .n [(2, 2)]]]), (.few, [[is .n [(3, 6)]]]),
       (.many, [[is .n [(7, 10)]]])]),
    (["ar"],
      [(.zero, [[is .n [(0, 0)]]]), (.one, [[is .n [(1, 1)]]]), (.two, [[is .n [(2, 2)]]]),
       (.few, [[restIs .n 100 [(3, 10)]]]), (.many, [[restIs .n 100 [(11, 99)]]])]),
    (["cy"],
      [(.zero, [[is .n [(0, 0)]]]), (.one, [[is .n [(1, 1)]]]), (.two, [[is .n [(2, 2)]]]),
       (.few, [[is .n [(3, 3)]]]), (.many, [[is .n [(6, 6)]]])])]

end IcuMessage.PluralRules
