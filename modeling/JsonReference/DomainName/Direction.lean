import JsonReference.Text.Steps

namespace JsonReference.DomainName

inductive Direction where
  | right
  | left
  | digit
  | arabicDigit
  | mark
  | neutral
  | other
deriving DecidableEq

namespace Direction

def ofSign : Text → Direction
  | ['L'] => .right
  | ['R'] => .left
  | ['P'] => .digit
  | ['S'] => .arabicDigit
  | ['M'] => .mark
  | ['W'] => .neutral
  | _ => .other

def directionLines : List String :=
  ["0W 9N eW 1cN 21W 30P 3aW 41L 5bW 61L 7bW 85N 86W aaL abW b2P b4W b5L b6W b9P baL bbW c0L d7W",
   "d8L f7W f8L 2b9W 2bbL 2c2W 2d0L 2d2W 2e0L 2e5W 2eeL 2efW 300M 370L 374W 376L 37eW 37fL 384W",
   "386L 387W 388L 3f6W 3f7L 483M 48aL 58aW 58bL 58dW 590R 591M 5beR 5bfM 5c0R 5c1M 5c3R 5c4M",
   "5c6R 5c7M 5c8R 600S 606W 608R 609W 60bR 60cW 60dR 60eW 610M 61bR 64bM 660S 66aW 66bS 66dR",
   "670M 671R 6d6M 6ddS 6deW 6dfM 6e5R 6e7M 6e9W 6eaM 6eeR 6f0P 6faR 711M 712R 730M 74bR 7a6M",
   "7b1R 7ebM 7f4R 7f6W 7faR 7fdM 7feR 816M 81aR 81bM 824R 825M 828R 829M 82eR 859M 85cR 890S",
   "892R 897M 8a0R 8caM 8e2S 8e3M 903L 93aM 93bL 93cM 93dL 941M 949L 94dM 94eL 951M 958L 962M",
   "964L 981M 982L 9bcM 9bdL 9c1M 9c5L 9cdM 9ceL 9e2M 9e4L 9f2W 9f4L 9fbW 9fcL 9feM 9ffL a01M",
   "a03L a3cM a3dL a41M a43L a47M a49L a4bM a4eL a51M a52L a70M a72L a75M a76L a81M a83L abcM",
   "abdL ac1M ac6L ac7M ac9L acdM aceL ae2M ae4L af1W af2L afaM b00L b01M b02L b3cM b3dL b3fM",
   "b40L b41M b45L b4dM b4eL b55M b57L b62M b64L b82M b83L bc0M bc1L bcdM bceL bf3W bfbL c00M",
   "c01L c04M c05L c3cM c3dL c3eM c41L c46M c49L c4aM c4eL c55M c57L c62M c64L c78W c7fL c81M",
   "c82L cbcM cbdL cccM cceL ce2M ce4L d00M d02L d3bM d3dL d41M d45L d4dM d4eL d62M d64L d81M",
   "d82L dcaM dcbL dd2M dd5L dd6M dd7L e31M e32L e34M e3bL e3fW e40L e47M e4fL eb1M eb2L eb4M",
   "ebdL ec8M ecfL f18M f1aL f35M f36L f37M f38L f39M f3aW f3eL f71M f7fL f80M f85L f86M f88L",
   "f8dM f98L f99M fbdL fc6M fc7L 102dM 1031L 1032M 1038L 1039M 103bL 103dM 103fL 1058M 105aL",
   "105eM 1061L 1071M 1075L 1082M 1083L 1085M 1087L 108dM 108eL 109dM 109eL 135dM 1360L 1390W",
   "139aL 1400W 1401L 1680N 1681L 169bW 169dL 1712M 1715L 1732M 1734L 1752M 1754L 1772M 1774L",
   "17b4M 17b6L 17b7M 17beL 17c6M 17c7L 17c9M 17d4L 17dbW 17dcL 17ddM 17deL 17f0W 17faL 1800W",
   "180bM 180eW 180fM 1810L 1885M 1887L 18a9M 18aaL 1920M 1923L 1927M 1929L 1932M 1933L 1939M",
   "193cL 1940W 1941L 1944W 1946L 19deW 1a00L 1a17M 1a19L 1a1bM 1a1cL 1a56M 1a57L 1a58M 1a5fL",
   "1a60M 1a61L 1a62M 1a63L 1a65M 1a6dL 1a73M 1a7dL 1a7fM 1a80L 1ab0M 1adeL 1ae0M 1aecL 1b00M",
   "1b04L 1b34M 1b35L 1b36M 1b3bL 1b3cM 1b3dL 1b42M 1b43L 1b4eW 1b50L 1b6bM 1b74L 1b7fW 1b80M",
   "1b82L 1ba2M 1ba6L 1ba8M 1baaL 1babM 1baeL 1be6M 1be7L 1be8M 1beaL 1bedM 1beeL 1befM 1bf2L",
   "1c2cM 1c34L 1c36M 1c38L 1cd0M 1cd3L 1cd4M 1ce1L 1ce2M 1ce9L 1cedM 1ceeL 1cf4M 1cf5L 1cf8M",
   "1cfaL 1dc0M 1e00L 1fbdW 1fbeL 1fbfW 1fc2L 1fcdW 1fd0L 1fddW 1fe0L 1fedW 1ff0L 1ffdW 1fffL",
   "2000N 200bW 200eL 200fR 2010W 2028N 202fW 205fN 2060W 2066N 206aW 2070P 2071L 2074P 207aW",
   "207fL 2080P 208aW 208fL 20a0W 20d0M 20f1L 2100W 2102L 2103W 2107L 2108W 210aL 2114W 2115L",
   "2116W 2119L 211eW 2124L 2125W 2126L 2127W 2128L 2129W 212aL 212eW 212fL 213aW 213cL 2140W",
   "2145L 214aW 214eL 2150W 2160L 2189W 218cL 2190W 2336L 237bW 2395L 2396W 242aL 2440W 244bL",
   "2460W 2488P 249cL 24eaW 26acL 26adW 2800L 2900W 2b74L 2b76W 2c00L 2ce5W 2cebL 2cefM 2cf2L",
   "2cf9W 2d00L 2d7fM 2d80L 2de0M 2e00W 2e5eL 2e80W 2e9aL 2e9bW 2ef4L 2f00W 2fd6L 2ff0W 3000N",
   "3001W 3005L 3008W 3021L 302aM 302eL 3030W 3031L 3036W 3038L 303dW 3040L 3099M 309bW 309dL",
   "30a0W 30a1L 30fbW 30fcL 31c0W 31e6L 31efW 31f0L 321dW 321fL 3250W 3260L 327cW 327fL 32b1W",
   "32c0L 32ccW 32d0L 3377W 337bL 33deW 33e0L 33ffW 3400L 4dc0W 4e00L a490W a4c7L a60dW a610L",
   "a66fM a673W a674M a67eW a680L a69eM a6a0L a6f0M a6f2L a700W a722L a788W a789L a802M a803L",
   "a806M a807L a80bM a80cL a825M a827L a828W a82cM a82dL a838W a83aL a874W a878L a8c4M a8c6L",
   "a8e0M a8f2L a8ffM a900L a926M a92eL a947M a952L a980M a983L a9b3M a9b4L a9b6M a9baL a9bcM",
   "a9beL a9e5M a9e6L aa29M aa2fL aa31M aa33L aa35M aa37L aa43M aa44L aa4cM aa4dL aa7cM aa7dL",
   "aab0M aab1L aab2M aab5L aab7M aab9L aabeM aac0L aac1M aac2L aaecM aaeeL aaf6M aaf7L ab6aW",
   "ab6cL abe5M abe6L abe8M abe9L abedM abeeL fb1dR fb1eM fb1fR fb29W fb2aR fbc3W fbd3R fd3eW",
   "fd50R fd90W fd92R fdc8W fdf0R fdfdW fe00M fe10W fe1aL fe20M fe30W fe53L fe54W fe67L fe68W",
   "fe6cL fe70R feffW ff00L ff01W ff10P ff1aW ff21L ff3bW ff41L ff5bW ff66L ffe0W ffe7L ffe8W",
   "ffefL fff0W 10000L 10101W 10102L 10140W 1018dL 10190W 1019dL 101a0W 101a1L 101fdM 101feL",
   "102e0M 102e1P 102fcL 10376M 1037bL 10800R 1091fW 10920R 10a01M 10a04R 10a05M 10a07R 10a0cM",
   "10a10R 10a38M 10a3bR 10a3fM 10a40R 10ae5M 10ae7R 10b39W 10b40R 10d24M 10d28R 10d30S 10d3aR",
   "10d40S 10d4aR 10d69M 10d6eW 10d6fR 10e60S 10e7fR 10eabM 10eadR 10ed0W 10ed9R 10efaM 10f00R",
   "10f46M 10f51R 10f82M 10f86R 11000L 11001M 11002L 11038M 11047L 11052W 11066L 11070M 11071L",
   "11073M 11075L 1107fM 11082L 110b3M 110b7L 110b9M 110bbL 110c2M 110c3L 11100M 11103L 11127M",
   "1112cL 1112dM 11135L 11173M 11174L 11180M 11182L 111b6M 111bfL 111c9M 111cdL 111cfM 111d0L",
   "1122fM 11232L 11234M 11235L 11236M 11238L 1123eM 1123fL 11241M 11242L 112dfM 112e0L 112e3M",
   "112ebL 11300M 11302L 1133bM 1133dL 11340M 11341L 11366M 1136dL 11370M 11375L 113bbM 113c1L",
   "113ceM 113cfL 113d0M 113d1L 113d2M 113d3L 113d4W 113d6L 113d7W 113d9L 113e1M 113e3L 11438M",
   "11440L 11442M 11445L 11446M 11447L 1145eM 1145fL 114b3M 114b9L 114baM 114bbL 114bfM 114c1L",
   "114c2M 114c4L 115b2M 115b6L 115bcM 115beL 115bfM 115c1L 115dcM 115deL 11633M 1163bL 1163dM",
   "1163eL 1163fM 11641L 11660W 1166dL 116abM 116acL 116adM 116aeL 116b0M 116b6L 116b7M 116b8L",
   "1171dM 11720L 11722M 11726L 11727M 1172cL 1182fM 11838L 11839M 1183bL 1193bM 1193dL 1193eM",
   "1193fL 11943M 11944L 119d4M 119d8L 119daM 119dcL 119e0M 119e1L 11a01M 11a07L 11a09M 11a0bL",
   "11a33M 11a39L 11a3bM 11a3fL 11a47M 11a48L 11a51M 11a57L 11a59M 11a5cL 11a8aM 11a97L 11a98M",
   "11a9aL 11b60M 11b61L 11b62M 11b65L 11b66M 11b67L 11be1W 11be2L 11c30M 11c37L 11c38M 11c3eL",
   "11c92M 11ca8L 11caaM 11cb1L 11cb2M 11cb4L 11cb5M 11cb7L 11d31M 11d37L 11d3aM 11d3bL 11d3cM",
   "11d3eL 11d3fM 11d46L 11d47M 11d48L 11d90M 11d92L 11d95M 11d96L 11d97M 11d98L 11ef3M 11ef5L",
   "11f00M 11f02L 11f36M 11f3bL 11f40M 11f41L 11f42M 11f43L 11f5aM 11f5bL 11fd5W 11ff2L 13440M",
   "13441L 13447M 13456L 1611eM 1612aL 1612dM 16130L 16af0M 16af5L 16b30M 16b37L 16d6dW 16d70L",
   "16f4fM 16f50L 16f8fM 16f93L 16fe2W 16fe3L 16fe4M 16fe5L 1bc9dM 1bc9fL 1bca0W 1bca4L 1cc00W",
   "1ccf0L 1ccfaW 1ccfdL 1cd00W 1ceb4L 1cebaW 1ced1L 1cee0W 1cef1L 1cf00M 1cf2eL 1cf30M 1cf47L",
   "1d167M 1d16aL 1d173W 1d17bM 1d183L 1d185M 1d18cL 1d1aaM 1d1aeL 1d1e9W 1d1ebL 1d200W 1d242M",
   "1d245W 1d246L 1d300W 1d357L 1d6dbW 1d6dcL 1d715W 1d716L 1d74fW 1d750L 1d789W 1d78aL 1d7c3W",
   "1d7c4L 1d7ceP 1d800L 1da00M 1da37L 1da3bM 1da6dL 1da75M 1da76L 1da84M 1da85L 1da9bM 1daa0L",
   "1daa1M 1dab0L 1e000M 1e007L 1e008M 1e019L 1e01bM 1e022L 1e023M 1e025L 1e026M 1e02bL 1e08fM",
   "1e090L 1e130M 1e137L 1e2aeM 1e2afL 1e2ecM 1e2f0L 1e2ffW 1e300L 1e4ecM 1e4f0L 1e5eeM 1e5f0L",
   "1e5ffW 1e600L 1e6e3M 1e6e4L 1e6e6M 1e6e7L 1e6eeM 1e6f0L 1e6f5M 1e6f6L 1e800R 1e8d0M 1e8d7R",
   "1e944M 1e94bR 1eef0W 1eef2R 1f000W 1f02cL 1f030W 1f094L 1f0a0W 1f0afL 1f0b1W 1f0c0L 1f0c1W",
   "1f0d0L 1f0d1W 1f0f6L 1f100P 1f10bW 1f110L 1f12fW 1f130L 1f16aW 1f170L 1f1adW 1f1aeL 1f260W",
   "1f266L 1f300W 1f6d9L 1f6dcW 1f6edL 1f6f0W 1f6fdL 1f700W 1f7daL 1f7e0W 1f7ecL 1f7f0W 1f7f1L",
   "1f800W 1f80cL 1f810W 1f848L 1f850W 1f85aL 1f860W 1f888L 1f890W 1f8aeL 1f8b0W 1f8bcL 1f8c0W",
   "1f8c2L 1f8d0W 1f8d9L 1f900W 1fa58L 1fa60W 1fa6eL 1fa70W 1fa7dL 1fa80W 1fa8bL 1fa8eW 1fac7L",
   "1fac8W 1fac9L 1facdW 1faddL 1fadfW 1faebL 1faefW 1faf9L 1fb00W 1fb93L 1fb94W 1fbf0P 1fbfaW",
   "1fbfbL 1fffeW 20000L 2fffeW 30000L 3fffeW 40000L 4fffeW 50000L 5fffeW 60000L 6fffeW 70000L",
   "7fffeW 80000L 8fffeW 90000L 9fffeW a0000L afffeW b0000L bfffeW c0000L cfffeW d0000L dfffeW",
   "e0100M e01f0W e1000L efffeW f0000L ffffeW 100000L 10fffeW"]

def table : Steps Direction := .ofLines (fun _ value => ofSign value) directionLines

def ofChar (c : Char) : Direction := (table.at? c).getD .other

def holdsRight (directions : List Direction) : Bool :=
  directions.all (fun d => d = .right ∨ d = .digit ∨ d = .mark ∨ d = .neutral) &&
    (directions.reverse.find? (· ≠ .mark)).any fun d => d = .right ∨ d = .digit

/-- Whether a label goes to the left throughout, with digits of one kind at most. -/
def holdsLeft (directions : List Direction) : Bool :=
  directions.all (fun d => d ≠ .right ∧ d ≠ .other) &&
    !(directions.contains .digit && directions.contains .arabicDigit) &&
    (directions.reverse.find? (· ≠ .mark)).any fun d =>
      d = .left ∨ d = .digit ∨ d = .arabicDigit

/-- The first character of a label decides where the label goes. -/
def holds (directions : List Direction) : Bool :=
  match directions with
  | [] => true
  | .right :: _ => holdsRight directions
  | .left :: _ => holdsLeft directions
  | _ => false

def isMixed (directions : List Direction) : Bool :=
  directions.any fun d => d = .left ∨ d = .arabicDigit

def hold (labels : List Text) : Bool :=
  let directions := labels.map (·.map ofChar)
  !directions.any isMixed || directions.all holds

end Direction
end JsonReference.DomainName
