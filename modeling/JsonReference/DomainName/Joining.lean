import JsonReference.Text.CombiningClass

namespace JsonReference.DomainName

/-- How a character joins with its neighbours in a cursive script; `transparent` is one over which
those at its sides join. -/
inductive Joining where
  | never
  | left
  | right
  | both
  | transparent
deriving DecidableEq

namespace Joining

def ofSign : Text → Joining
  | ['L'] => .left
  | ['R'] => .right
  | ['B'] => .both
  | ['T'] => .transparent
  | _ => .never

def joiningLines : List String :=
  ["adT aeN 300T 370N 483T 48aN 591T 5beN 5bfT 5c0N 5c1T 5c3N 5c4T 5c6N 5c7T 5c8N 610T 61bN 61cT",
   "61dN 620B 621N 622R 626B 627R 628B 629R 62aB 62fR 633B 640N 641B 648R 649B 64bT 660N 66eB",
   "670T 671R 674N 675R 678B 688R 69aB 6c0R 6c1B 6c3R 6ccB 6cdR 6ceB 6cfR 6d0B 6d2R 6d4N 6d5R",
   "6d6T 6ddN 6dfT 6e5N 6e7T 6e9N 6eaT 6eeR 6f0N 6faB 6fdN 6ffB 700N 70fT 710R 711T 712B 715R",
   "71aB 71eR 71fB 728R 729B 72aR 72bB 72cR 72dB 72fR 730T 74bN 74dR 74eB 759R 75cB 76bR 76dB",
   "771R 772B 773R 775B 778R 77aB 780N 7a6T 7b1N 7caB 7ebT 7f4N 7fdT 7feN 816T 81aN 81bT 824N",
   "825T 828N 829T 82eN 840R 841B 846R 848B 849R 84aB 854R 855B 856R 859T 85cN 860B 861N 862B",
   "866N 867R 868B 869R 86bN 870R 883N 886B 887N 889B 88eR 88fB 890N 897T 8a0B 8aaR 8adN 8aeR",
   "8afB 8b1R 8b3B 8b9R 8baB 8c9N 8caT 8e2N 8e3T 903N 93aT 93bN 93cT 93dN 941T 949N 94dT 94eN",
   "951T 958N 962T 964N 981T 982N 9bcT 9bdN 9c1T 9c5N 9cdT 9ceN 9e2T 9e4N 9feT 9ffN a01T a03N",
   "a3cT a3dN a41T a43N a47T a49N a4bT a4eN a51T a52N a70T a72N a75T a76N a81T a83N abcT abdN",
   "ac1T ac6N ac7T ac9N acdT aceN ae2T ae4N afaT b00N b01T b02N b3cT b3dN b3fT b40N b41T b45N",
   "b4dT b4eN b55T b57N b62T b64N b82T b83N bc0T bc1N bcdT bceN c00T c01N c04T c05N c3cT c3dN",
   "c3eT c41N c46T c49N c4aT c4eN c55T c57N c62T c64N c81T c82N cbcT cbdN cbfT cc0N cc6T cc7N",
   "cccT cceN ce2T ce4N d00T d02N d3bT d3dN d41T d45N d4dT d4eN d62T d64N d81T d82N dcaT dcbN",
   "dd2T dd5N dd6T dd7N e31T e32N e34T e3bN e47T e4fN eb1T eb2N eb4T ebdN ec8T ecfN f18T f1aN",
   "f35T f36N f37T f38N f39T f3aN f71T f7fN f80T f85N f86T f88N f8dT f98N f99T fbdN fc6T fc7N",
   "102dT 1031N 1032T 1038N 1039T 103bN 103dT 103fN 1058T 105aN 105eT 1061N 1071T 1075N 1082T",
   "1083N 1085T 1087N 108dT 108eN 109dT 109eN 135dT 1360N 1712T 1715N 1732T 1734N 1752T 1754N",
   "1772T 1774N 17b4T 17b6N 17b7T 17beN 17c6T 17c7N 17c9T 17d4N 17ddT 17deN 1807B 1808N 180bT",
   "180eN 180fT 1810N 1820B 1879N 1885T 1887B 18a9T 18aaB 18abN 1920T 1923N 1927T 1929N 1932T",
   "1933N 1939T 193cN 1a17T 1a19N 1a1bT 1a1cN 1a56T 1a57N 1a58T 1a5fN 1a60T 1a61N 1a62T 1a63N",
   "1a65T 1a6dN 1a73T 1a7dN 1a7fT 1a80N 1ab0T 1adeN 1ae0T 1aecN 1b00T 1b04N 1b34T 1b35N 1b36T",
   "1b3bN 1b3cT 1b3dN 1b42T 1b43N 1b6bT 1b74N 1b80T 1b82N 1ba2T 1ba6N 1ba8T 1baaN 1babT 1baeN",
   "1be6T 1be7N 1be8T 1beaN 1bedT 1beeN 1befT 1bf2N 1c2cT 1c34N 1c36T 1c38N 1cd0T 1cd3N 1cd4T",
   "1ce1N 1ce2T 1ce9N 1cedT 1ceeN 1cf4T 1cf5N 1cf8T 1cfaN 1dc0T 1e00N 200bT 200cN 200eT 2010N",
   "202aT 202fN 2060T 2065N 206aT 2070N 20d0T 20f1N 2cefT 2cf2N 2d7fT 2d80N 2de0T 2e00N 302aT",
   "302eN 3099T 309bN a66fT a673N a674T a67eN a69eT a6a0N a6f0T a6f2N a802T a803N a806T a807N",
   "a80bT a80cN a825T a827N a82cT a82dN a840B a872L a873N a8c4T a8c6N a8e0T a8f2N a8ffT a900N",
   "a926T a92eN a947T a952N a980T a983N a9b3T a9b4N a9b6T a9baN a9bcT a9beN a9e5T a9e6N aa29T",
   "aa2fN aa31T aa33N aa35T aa37N aa43T aa44N aa4cT aa4dN aa7cT aa7dN aab0T aab1N aab2T aab5N",
   "aab7T aab9N aabeT aac0N aac1T aac2N aaecT aaeeN aaf6T aaf7N abe5T abe6N abe8T abe9N abedT",
   "abeeN fb1eT fb1fN fe00T fe10N fe20T fe30N feffT ff00N fff9T fffcN 101fdT 101feN 102e0T",
   "102e1N 10376T 1037bN 10a01T 10a04N 10a05T 10a07N 10a0cT 10a10N 10a38T 10a3bN 10a3fT 10a40N",
   "10ac0B 10ac5R 10ac6N 10ac7R 10ac8N 10ac9R 10acbN 10acdL 10aceR 10ad3B 10ad7L 10ad8B 10addR",
   "10adeB 10ae1R 10ae2N 10ae4R 10ae5T 10ae7N 10aebB 10aefR 10af0N 10b80B 10b81R 10b82B 10b83R",
   "10b86B 10b89R 10b8aB 10b8cR 10b8dB 10b8eR 10b90B 10b91R 10b92N 10ba9R 10badB 10bafN 10d00L",
   "10d01B 10d22R 10d23B 10d24T 10d28N 10d69T 10d6eN 10eabT 10eadN 10ec2R 10ec3B 10ec5N 10ec6B",
   "10ec8N 10efaT 10f00N 10f30B 10f33R 10f34B 10f45N 10f46T 10f51B 10f54R 10f55N 10f70B 10f74R",
   "10f76B 10f82T 10f86N 10fb0B 10fb1N 10fb2B 10fb4R 10fb7N 10fb8B 10fb9R 10fbbB 10fbdR 10fbeB",
   "10fc0N 10fc1B 10fc2R 10fc4B 10fc5N 10fc9R 10fcaB 10fcbL 10fccN 11001T 11002N 11038T 11047N",
   "11070T 11071N 11073T 11075N 1107fT 11082N 110b3T 110b7N 110b9T 110bbN 110c2T 110c3N 11100T",
   "11103N 11127T 1112cN 1112dT 11135N 11173T 11174N 11180T 11182N 111b6T 111bfN 111c9T 111cdN",
   "111cfT 111d0N 1122fT 11232N 11234T 11235N 11236T 11238N 1123eT 1123fN 11241T 11242N 112dfT",
   "112e0N 112e3T 112ebN 11300T 11302N 1133bT 1133dN 11340T 11341N 11366T 1136dN 11370T 11375N",
   "113bbT 113c1N 113ceT 113cfN 113d0T 113d1N 113d2T 113d3N 113e1T 113e3N 11438T 11440N 11442T",
   "11445N 11446T 11447N 1145eT 1145fN 114b3T 114b9N 114baT 114bbN 114bfT 114c1N 114c2T 114c4N",
   "115b2T 115b6N 115bcT 115beN 115bfT 115c1N 115dcT 115deN 11633T 1163bN 1163dT 1163eN 1163fT",
   "11641N 116abT 116acN 116adT 116aeN 116b0T 116b6N 116b7T 116b8N 1171dT 1171eN 1171fT 11720N",
   "11722T 11726N 11727T 1172cN 1182fT 11838N 11839T 1183bN 1193bT 1193dN 1193eT 1193fN 11943T",
   "11944N 119d4T 119d8N 119daT 119dcN 119e0T 119e1N 11a01T 11a0bN 11a33T 11a39N 11a3bT 11a3fN",
   "11a47T 11a48N 11a51T 11a57N 11a59T 11a5cN 11a8aT 11a97N 11a98T 11a9aN 11b60T 11b61N 11b62T",
   "11b65N 11b66T 11b67N 11c30T 11c37N 11c38T 11c3eN 11c3fT 11c40N 11c92T 11ca8N 11caaT 11cb1N",
   "11cb2T 11cb4N 11cb5T 11cb7N 11d31T 11d37N 11d3aT 11d3bN 11d3cT 11d3eN 11d3fT 11d46N 11d47T",
   "11d48N 11d90T 11d92N 11d95T 11d96N 11d97T 11d98N 11ef3T 11ef5N 11f00T 11f02N 11f36T 11f3bN",
   "11f40T 11f41N 11f42T 11f43N 11f5aT 11f5bN 13430T 13441N 13447T 13456N 1611eT 1612aN 1612dT",
   "16130N 16af0T 16af5N 16b30T 16b37N 16f4fT 16f50N 16f8fT 16f93N 16fe4T 16fe5N 1bc9dT 1bc9fN",
   "1bca0T 1bca4N 1cf00T 1cf2eN 1cf30T 1cf47N 1d167T 1d16aN 1d173T 1d183N 1d185T 1d18cN 1d1aaT",
   "1d1aeN 1d242T 1d245N 1da00T 1da37N 1da3bT 1da6dN 1da75T 1da76N 1da84T 1da85N 1da9bT 1daa0N",
   "1daa1T 1dab0N 1e000T 1e007N 1e008T 1e019N 1e01bT 1e022N 1e023T 1e025N 1e026T 1e02bN 1e08fT",
   "1e090N 1e130T 1e137N 1e2aeT 1e2afN 1e2ecT 1e2f0N 1e4ecT 1e4f0N 1e5eeT 1e5f0N 1e6e3T 1e6e4N",
   "1e6e6T 1e6e7N 1e6eeT 1e6f0N 1e6f5T 1e6f6N 1e8d0T 1e8d7N 1e900B 1e944T 1e94cN e0001T e0002N",
   "e0020T e0080N e0100T e01f0N"]

def table : Steps Joining := .ofLines (fun _ value => ofSign value) joiningLines

def ofChar (c : Char) : Joining := (table.at? c).getD .never

def nonJoiner : Char := '\u200c'

def joiner : Char := '\u200d'

/-- Whether a non-joiner has something to part: `before` is what comes before it, the last character
first. -/
def parts (before after : Text) : Bool :=
  let next (t : Text) := (t.map ofChar).find? (· ≠ .transparent)
  (next before).any (fun j => j = .left ∨ j = .both) &&
    (next after).any (fun j => j = .right ∨ j = .both)

def holdsAt (before : Text) (c : Char) (after : Text) : Bool :=
  if c = nonJoiner ∨ c = joiner then
    before.head?.any (Text.combiningClass · = Text.conjunctClass) ||
      (c = nonJoiner && parts before after)
  else true

def holdFrom (before : Text) : Text → Bool
  | [] => true
  | c :: rest => holdsAt before c rest && holdFrom (c :: before) rest

/-- Whether all joiners of a label stand where they may. -/
def hold (label : Text) : Bool := holdFrom [] label

end Joining
end JsonReference.DomainName
