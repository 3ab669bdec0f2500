import JsonReference.Text.Steps

namespace JsonReference.Text

/-- Where the marks begin with `M` and stop with `N`. -/
def markLines : List String :=
  ["300M 370N 483M 48aN 591M 5beN 5bfM 5c0N 5c1M 5c3N 5c4M 5c6N 5c7M 5c8N 610M 61bN 64bM 660N",
   "670M 671N 6d6M 6ddN 6dfM 6e5N 6e7M 6e9N 6eaM 6eeN 711M 712N 730M 74bN 7a6M 7b1N 7ebM 7f4N",
   "7fdM 7feN 816M 81aN 81bM 824N 825M 828N 829M 82eN 859M 85cN 897M 8a0N 8caM 8e2N 8e3M 904N",
   "93aM 93dN 93eM 950N 951M 958N 962M 964N 981M 984N 9bcM 9bdN 9beM 9c5N 9c7M 9c9N 9cbM 9ceN",
   "9d7M 9d8N 9e2M 9e4N 9feM 9ffN a01M a04N a3cM a3dN a3eM a43N a47M a49N a4bM a4eN a51M a52N",
   "a70M a72N a75M a76N a81M a84N abcM abdN abeM ac6N ac7M acaN acbM aceN ae2M ae4N afaM b00N",
   "b01M b04N b3cM b3dN b3eM b45N b47M b49N b4bM b4eN b55M b58N b62M b64N b82M b83N bbeM bc3N",
   "bc6M bc9N bcaM bceN bd7M bd8N c00M c05N c3cM c3dN c3eM c45N c46M c49N c4aM c4eN c55M c57N",
   "c62M c64N c81M c84N cbcM cbdN cbeM cc5N cc6M cc9N ccaM cceN cd5M cd7N ce2M ce4N cf3M cf4N",
   "d00M d04N d3bM d3dN d3eM d45N d46M d49N d4aM d4eN d57M d58N d62M d64N d81M d84N dcaM dcbN",
   "dcfM dd5N dd6M dd7N dd8M de0N df2M df4N e31M e32N e34M e3bN e47M e4fN eb1M eb2N eb4M ebdN",
   "ec8M ecfN f18M f1aN f35M f36N f37M f38N f39M f3aN f3eM f40N f71M f85N f86M f88N f8dM f98N",
   "f99M fbdN fc6M fc7N 102bM 103fN 1056M 105aN 105eM 1061N 1062M 1065N 1067M 106eN 1071M 1075N",
   "1082M 108eN 108fM 1090N 109aM 109eN 135dM 1360N 1712M 1716N 1732M 1735N 1752M 1754N 1772M",
   "1774N 17b4M 17d4N 17ddM 17deN 180bM 180eN 180fM 1810N 1885M 1887N 18a9M 18aaN 1920M 192cN",
   "1930M 193cN 1a17M 1a1cN 1a55M 1a5fN 1a60M 1a7dN 1a7fM 1a80N 1ab0M 1adeN 1ae0M 1aecN 1b00M",
   "1b05N 1b34M 1b45N 1b6bM 1b74N 1b80M 1b83N 1ba1M 1baeN 1be6M 1bf4N 1c24M 1c38N 1cd0M 1cd3N",
   "1cd4M 1ce9N 1cedM 1ceeN 1cf4M 1cf5N 1cf7M 1cfaN 1dc0M 1e00N 20d0M 20f1N 2cefM 2cf2N 2d7fM",
   "2d80N 2de0M 2e00N 302aM 3030N 3099M 309bN a66fM a673N a674M a67eN a69eM a6a0N a6f0M a6f2N",
   "a802M a803N a806M a807N a80bM a80cN a823M a828N a82cM a82dN a880M a882N a8b4M a8c6N a8e0M",
   "a8f2N a8ffM a900N a926M a92eN a947M a954N a980M a984N a9b3M a9c1N a9e5M a9e6N aa29M aa37N",
   "aa43M aa44N aa4cM aa4eN aa7bM aa7eN aab0M aab1N aab2M aab5N aab7M aab9N aabeM aac0N aac1M",
   "aac2N aaebM aaf0N aaf5M aaf7N abe3M abebN abecM abeeN fb1eM fb1fN fe00M fe10N fe20M fe30N",
   "101fdM 101feN 102e0M 102e1N 10376M 1037bN 10a01M 10a04N 10a05M 10a07N 10a0cM 10a10N 10a38M",
   "10a3bN 10a3fM 10a40N 10ae5M 10ae7N 10d24M 10d28N 10d69M 10d6eN 10eabM 10eadN 10efaM 10f00N",
   "10f46M 10f51N 10f82M 10f86N 11000M 11003N 11038M 11047N 11070M 11071N 11073M 11075N 1107fM",
   "11083N 110b0M 110bbN 110c2M 110c3N 11100M 11103N 11127M 11135N 11145M 11147N 11173M 11174N",
   "11180M 11183N 111b3M 111c1N 111c9M 111cdN 111ceM 111d0N 1122cM 11238N 1123eM 1123fN 11241M",
   "11242N 112dfM 112ebN 11300M 11304N 1133bM 1133dN 1133eM 11345N 11347M 11349N 1134bM 1134eN",
   "11357M 11358N 11362M 11364N 11366M 1136dN 11370M 11375N 113b8M 113c1N 113c2M 113c3N 113c5M",
   "113c6N 113c7M 113cbN 113ccM 113d1N 113d2M 113d3N 113e1M 113e3N 11435M 11447N 1145eM 1145fN",
   "114b0M 114c4N 115afM 115b6N 115b8M 115c1N 115dcM 115deN 11630M 11641N 116abM 116b8N 1171dM",
   "1172cN 1182cM 1183bN 11930M 11936N 11937M 11939N 1193bM 1193fN 11940M 11941N 11942M 11944N",
   "119d1M 119d8N 119daM 119e1N 119e4M 119e5N 11a01M 11a0bN 11a33M 11a3aN 11a3bM 11a3fN 11a47M",
   "11a48N 11a51M 11a5cN 11a8aM 11a9aN 11b60M 11b68N 11c2fM 11c37N 11c38M 11c40N 11c92M 11ca8N",
   "11ca9M 11cb7N 11d31M 11d37N 11d3aM 11d3bN 11d3cM 11d3eN 11d3fM 11d46N 11d47M 11d48N 11d8aM",
   "11d8fN 11d90M 11d92N 11d93M 11d98N 11ef3M 11ef7N 11f00M 11f02N 11f03M 11f04N 11f34M 11f3bN",
   "11f3eM 11f43N 11f5aM 11f5bN 13440M 13441N 13447M 13456N 1611eM 16130N 16af0M 16af5N 16b30M",
   "16b37N 16f4fM 16f50N 16f51M 16f88N 16f8fM 16f93N 16fe4M 16fe5N 16ff0M 16ff2N 1bc9dM 1bc9fN",
   "1cf00M 1cf2eN 1cf30M 1cf47N 1d165M 1d16aN 1d16dM 1d173N 1d17bM 1d183N 1d185M 1d18cN 1d1aaM",
   "1d1aeN 1d242M 1d245N 1da00M 1da37N 1da3bM 1da6dN 1da75M 1da76N 1da84M 1da85N 1da9bM 1daa0N",
   "1daa1M 1dab0N 1e000M 1e007N 1e008M 1e019N 1e01bM 1e022N 1e023M 1e025N 1e026M 1e02bN 1e08fM",
   "1e090N 1e130M 1e137N 1e2aeM 1e2afN 1e2ecM 1e2f0N 1e4ecM 1e4f0N 1e5eeM 1e5f0N 1e6e3M 1e6e4N",
   "1e6e6M 1e6e7N 1e6eeM 1e6f0N 1e6f5M 1e6f6N 1e8d0M 1e8d7N 1e944M 1e94bN e0100M e01f0N"]

def marks : Steps Bool := .ofLines (fun _ value => value == ['M']) markLines

def isMark (c : Char) : Bool := (marks.at? c).getD false

/-- The classes in decimal digits, behind `C`. -/
def classLines : List String :=
  ["300C230 315C232 316C220 31aC232 31bC216 31cC220 321C202 323C220 327C202 329C220 334C1",
   "339C220 33dC230 340C0 342C230 343C0 345C240 346C230 347C220 34aC230 34dC220 34fC0 350C230",
   "353C220 357C230 358C232 359C220 35bC230 35cC233 35dC234 35fC233 360C234 362C233 363C230",
   "370C0 483C230 488C0 591C220 592C230 596C220 597C230 59aC222 59bC220 59cC230 5a2C220 5a8C230",
   "5aaC220 5abC230 5adC222 5aeC228 5afC230 5b0C10 5b1C11 5b2C12 5b3C13 5b4C14 5b5C15 5b6C16",
   "5b7C17 5b8C18 5b9C19 5bbC20 5bcC21 5bdC22 5beC0 5bfC23 5c0C0 5c1C24 5c2C25 5c3C0 5c4C230",
   "5c5C220 5c6C0 5c7C18 5c8C0 610C230 618C30 619C31 61aC32 61bC0 64bC27 64cC28 64dC29 64eC30",
   "64fC31 650C32 651C33 652C34 653C230 655C220 657C230 65cC220 65dC230 65fC220 660C0 670C35",
   "671C0 6d6C230 6ddC0 6dfC230 6e3C220 6e4C230 6e5C0 6e7C230 6e9C0 6eaC220 6ebC230 6edC220",
   "6eeC0 711C36 712C0 730C230 731C220 732C230 734C220 735C230 737C220 73aC230 73bC220 73dC230",
   "73eC220 73fC230 742C220 743C230 744C220 745C230 746C220 747C230 748C220 749C230 74bC0",
   "7ebC230 7f2C220 7f3C230 7f4C0 7fdC220 7feC0 816C230 81aC0 81bC230 824C0 825C230 828C0",
   "829C230 82eC0 859C220 85cC0 897C230 899C220 89cC230 8a0C0 8caC230 8cfC220 8d4C230 8e2C0",
   "8e3C220 8e4C230 8e6C220 8e7C230 8e9C220 8eaC230 8edC220 8f0C27 8f1C28 8f2C29 8f3C230 8f6C220",
   "8f7C230 8f9C220 8fbC230 900C0 93cC7 93dC0 94dC9 94eC0 951C230 952C220 953C230 955C0 9bcC7",
   "9bdC0 9cdC9 9ceC0 9feC230 9ffC0 a3cC7 a3dC0 a4dC9 a4eC0 abcC7 abdC0 acdC9 aceC0 b3cC7 b3dC0",
   "b4dC9 b4eC0 bcdC9 bceC0 c3cC7 c3dC0 c4dC9 c4eC0 c55C84 c56C91 c57C0 cbcC7 cbdC0 ccdC9 cceC0",
   "d3bC9 d3dC0 d4dC9 d4eC0 dcaC9 dcbC0 e38C103 e3aC9 e3bC0 e48C107 e4cC0 eb8C118 ebaC9 ebbC0",
   "ec8C122 eccC0 f18C220 f1aC0 f35C220 f36C0 f37C220 f38C0 f39C216 f3aC0 f71C129 f72C130 f73C0",
   "f74C132 f75C0 f7aC130 f7eC0 f80C130 f81C0 f82C230 f84C9 f85C0 f86C230 f88C0 fc6C220 fc7C0",
   "1037C7 1038C0 1039C9 103bC0 108dC220 108eC0 135dC230 1360C0 1714C9 1716C0 1734C9 1735C0",
   "17d2C9 17d3C0 17ddC230 17deC0 18a9C228 18aaC0 1939C222 193aC230 193bC220 193cC0 1a17C230",
   "1a18C220 1a19C0 1a60C9 1a61C0 1a75C230 1a7dC0 1a7fC220 1a80C0 1ab0C230 1ab5C220 1abbC230",
   "1abdC220 1abeC0 1abfC220 1ac1C230 1ac3C220 1ac5C230 1acaC220 1acbC230 1addC220 1adeC0",
   "1ae0C230 1ae6C220 1ae7C230 1aebC234 1aecC0 1b34C7 1b35C0 1b44C9 1b45C0 1b6bC230 1b6cC220",
   "1b6dC230 1b74C0 1baaC9 1bacC0 1be6C7 1be7C0 1bf2C9 1bf4C0 1c37C7 1c38C0 1cd0C230 1cd3C0",
   "1cd4C1 1cd5C220 1cdaC230 1cdcC220 1ce0C230 1ce1C0 1ce2C1 1ce9C0 1cedC220 1ceeC0 1cf4C230",
   "1cf5C0 1cf8C230 1cfaC0 1dc0C230 1dc2C220 1dc3C230 1dcaC220 1dcbC230 1dcdC234 1dceC214",
   "1dcfC220 1dd0C202 1dd1C230 1df6C232 1df7C228 1df9C220 1dfaC218 1dfbC230 1dfcC233 1dfdC220",
   "1dfeC230 1dffC220 1e00C0 20d0C230 20d2C1 20d4C230 20d8C1 20dbC230 20ddC0 20e1C230 20e2C0",
   "20e5C1 20e7C230 20e8C220 20e9C230 20eaC1 20ecC220 20f0C230 20f1C0 2cefC230 2cf2C0 2d7fC9",
   "2d80C0 2de0C230 2e00C0 302aC218 302bC228 302cC232 302dC222 302eC224 3030C0 3099C8 309bC0",
   "a66fC230 a670C0 a674C230 a67eC0 a69eC230 a6a0C0 a6f0C230 a6f2C0 a806C9 a807C0 a82cC9 a82dC0",
   "a8c4C9 a8c5C0 a8e0C230 a8f2C0 a92bC220 a92eC0 a953C9 a954C0 a9b3C7 a9b4C0 a9c0C9 a9c1C0",
   "aab0C230 aab1C0 aab2C230 aab4C220 aab5C0 aab7C230 aab9C0 aabeC230 aac0C0 aac1C230 aac2C0",
   "aaf6C9 aaf7C0 abedC9 abeeC0 fb1eC26 fb1fC0 fe20C230 fe27C220 fe2eC230 fe30C0 101fdC220",
   "101feC0 102e0C220 102e1C0 10376C230 1037bC0 10a0dC220 10a0eC0 10a0fC230 10a10C0 10a38C230",
   "10a39C1 10a3aC220 10a3bC0 10a3fC9 10a40C0 10ae5C230 10ae6C220 10ae7C0 10d24C230 10d28C0",
   "10d69C230 10d6eC0 10eabC230 10eadC0 10efaC220 10efcC0 10efdC220 10f00C0 10f46C220 10f48C230",
   "10f4bC220 10f4cC230 10f4dC220 10f51C0 10f82C230 10f83C220 10f84C230 10f85C220 10f86C0",
   "11046C9 11047C0 11070C9 11071C0 1107fC9 11080C0 110b9C9 110baC7 110bbC0 11100C230 11103C0",
   "11133C9 11135C0 11173C7 11174C0 111c0C9 111c1C0 111caC7 111cbC0 11235C9 11236C7 11237C0",
   "112e9C7 112eaC9 112ebC0 1133bC7 1133dC0 1134dC9 1134eC0 11366C230 1136dC0 11370C230 11375C0",
   "113ceC9 113d1C0 11442C9 11443C0 11446C7 11447C0 1145eC230 1145fC0 114c2C9 114c3C7 114c4C0",
   "115bfC9 115c0C7 115c1C0 1163fC9 11640C0 116b6C9 116b7C7 116b8C0 1172bC9 1172cC0 11839C9",
   "1183aC7 1183bC0 1193dC9 1193fC0 11943C7 11944C0 119e0C9 119e1C0 11a34C9 11a35C0 11a47C9",
   "11a48C0 11a99C9 11a9aC0 11c3fC9 11c40C0 11d42C7 11d43C0 11d44C9 11d46C0 11d97C9 11d98C0",
   "11f41C9 11f43C0 1612fC9 16130C0 16af0C1 16af5C0 16b30C230 16b37C0 16ff0C6 16ff2C0 1bc9eC1",
   "1bc9fC0 1d165C216 1d167C1 1d16aC0 1d16dC226 1d16eC216 1d173C0 1d17bC220 1d183C0 1d185C230",
   "1d18aC220 1d18cC0 1d1aaC230 1d1aeC0 1d242C230 1d245C0 1e000C230 1e007C0 1e008C230 1e019C0",
   "1e01bC230 1e022C0 1e023C230 1e025C0 1e026C230 1e02bC0 1e08fC230 1e090C0 1e130C230 1e137C0",
   "1e2aeC230 1e2afC0 1e2ecC230 1e2f0C0 1e4ecC232 1e4eeC220 1e4efC230 1e4f0C0 1e5eeC230",
   "1e5efC220 1e5f0C0 1e6e3C230 1e6e4C0 1e6e6C230 1e6e7C0 1e6eeC230 1e6f0C0 1e6f5C230 1e6f6C0",
   "1e8d0C220 1e8d7C0 1e944C230 1e94aC7 1e94bC0"]

def classes : Steps Nat :=
  .ofLines (fun _ value => (value.drop 1).foldl (fun n c => 10 * n + hexValue c) 0) classLines

def combiningClass (c : Char) : Nat := (classes.at? c).getD 0

def conjunctClass : Nat := 9

end JsonReference.Text
