import EarlyBreak.Text.Ascii
import EarlyBreak.Unicode.CodeTable

/-! The directions in which characters are written. -/

namespace EarlyBreak.Unicode

/-- What a character does to the direction of a text, as far as domains tell such characters
apart.
-/
inductive Direction where
  | left
  /-- The letters of scripts written from right to left. -/
  | right
  | arabicNumber
  | number
  /-- Separators, signs and symbols. -/
  | neutral
  /-- A mark, which goes with the character before it. -/
  | mark
  deriving DecidableEq, Repr

/-- The direction that a note of the table stands for. -/
def Direction.ofNote (note : List Char) : Direction :=
  match note with
  | [':', 'r'] => right
  | [':', 'a'] => arabicNumber
  | [':', 'e'] => number
  | [':', 'n'] => neutral
  | [':', 'm'] => mark
  | _ => left

/-- The runs beyond ASCII by bidirectional class: `r` for right, `a` for Arabic number, `e` for
European number, `m` for nonspacing mark, `n` for neutral.  All other characters go to the left.
-/
def directionTable : CodeTable Direction :=
  CodeTable.ofText Direction.ofNote "
    80-84:n 86-a9:n ab-b1:n b2-b3:e b4:n b6-b8:n b9:e bb-bf:n d7:n f7:n 2b9-2ba:n 2c2-2cf:n
    2d2-2df:n 2e5-2ed:n 2ef-2ff:n 300-36f:m 374-375:n 37e:n 384-385:n 387:n 3f6:n 483-489:m 58a:n
    58d-58f:n 591-5bd:m 5be:r 5bf:m 5c0:r 5c1-5c2:m 5c3:r 5c4-5c5:m 5c6:r 5c7:m 5d0-5ea:r
    5ef-5f4:r 600-605:a 606-607:n 608:r 609-60a:n 60b:r 60c:n 60d:r 60e-60f:n 610-61a:m 61b-64a:r
    64b-65f:m 660-669:a 66a:n 66b-66c:a 66d-66f:r 670:m 671-6d5:r 6d6-6dc:m 6dd:a 6de:n 6df-6e4:m
    6e5-6e6:r 6e7-6e8:m 6e9:n 6ea-6ed:m 6ee-6ef:r 6f0-6f9:e 6fa-70d:r 70f-710:r 711:m 712-72f:r
    730-74a:m 74d-7a5:r 7a6-7b0:m 7b1:r 7c0-7ea:r 7eb-7f3:m 7f4-7f5:r 7f6-7f9:n 7fa:r 7fd:m
    7fe-815:r 816-819:m 81a:r 81b-823:m 824:r 825-827:m 828:r 829-82d:m 830-83e:r 840-858:r
    859-85b:m 85e:r 860-86a:r 870-88f:r 890-891:a 897-89f:m 8a0-8c9:r 8ca-8e1:m 8e2:a 8e3-902:m
    93a:m 93c:m 941-948:m 94d:m 951-957:m 962-963:m 981:m 9bc:m 9c1-9c4:m 9cd:m 9e2-9e3:m
    9f2-9f3:n 9fb:n 9fe:m a01-a02:m a3c:m a41-a42:m a47-a48:m a4b-a4d:m a51:m a70-a71:m a75:m
    a81-a82:m abc:m ac1-ac5:m ac7-ac8:m acd:m ae2-ae3:m af1:n afa-aff:m b01:m b3c:m b3f:m
    b41-b44:m b4d:m b55-b56:m b62-b63:m b82:m bc0:m bcd:m bf3-bfa:n c00:m c04:m c3c:m c3e-c40:m
    c46-c48:m c4a-c4d:m c55-c56:m c62-c63:m c78-c7e:n c81:m cbc:m ccc-ccd:m ce2-ce3:m d00-d01:m
    d3b-d3c:m d41-d44:m d4d:m d62-d63:m d81:m dca:m dd2-dd4:m dd6:m e31:m e34-e3a:m e3f:n
    e47-e4e:m eb1:m eb4-ebc:m ec8-ece:m f18-f19:m f35:m f37:m f39:m f3a-f3d:n f71-f7e:m f80-f84:m
    f86-f87:m f8d-f97:m f99-fbc:m fc6:m 102d-1030:m 1032-1037:m 1039-103a:m 103d-103e:m
    1058-1059:m 105e-1060:m 1071-1074:m 1082:m 1085-1086:m 108d:m 109d:m 135d-135f:m 1390-1399:n
    1400:n 169b-169c:n 1712-1714:m 1732-1733:m 1752-1753:m 1772-1773:m 17b4-17b5:m 17b7-17bd:m
    17c6:m 17c9-17d3:m 17db:n 17dd:m 17f0-17f9:n 1800-180a:n 180b-180d:m 180e:n 180f:m 1885-1886:m
    18a9:m 1920-1922:m 1927-1928:m 1932:m 1939-193b:m 1940:n 1944-1945:n 19de-19ff:n 1a17-1a18:m
    1a1b:m 1a56:m 1a58-1a5e:m 1a60:m 1a62:m 1a65-1a6c:m 1a73-1a7c:m 1a7f:m 1ab0-1add:m 1ae0-1aeb:m
    1b00-1b03:m 1b34:m 1b36-1b3a:m 1b3c:m 1b42:m 1b6b-1b73:m 1b80-1b81:m 1ba2-1ba5:m 1ba8-1ba9:m
    1bab-1bad:m 1be6:m 1be8-1be9:m 1bed:m 1bef-1bf1:m 1c2c-1c33:m 1c36-1c37:m 1cd0-1cd2:m
    1cd4-1ce0:m 1ce2-1ce8:m 1ced:m 1cf4:m 1cf8-1cf9:m 1dc0-1dff:m 1fbd:n 1fbf-1fc1:n 1fcd-1fcf:n
    1fdd-1fdf:n 1fed-1fef:n 1ffd-1ffe:n 200b-200d:n 200f:r 2010-2027:n 202f-205e:n 2060-2064:n
    206a-206f:n 2070:e 2074-2079:e 207a-207e:n 2080-2089:e 208a-208e:n 20a0-20c1:n 20d0-20f0:m
    2100-2101:n 2103-2106:n 2108-2109:n 2114:n 2116-2118:n 211e-2123:n 2125:n 2127:n 2129:n 212e:n
    213a-213b:n 2140-2144:n 214a-214d:n 2150-215f:n 2189-218b:n 2190-2335:n 237b-2394:n
    2396-2429:n 2440-244a:n 2460-2487:n 2488-249b:e 24ea-26ab:n 26ad-27ff:n 2900-2b73:n
    2b76-2bff:n 2ce5-2cea:n 2cef-2cf1:m 2cf9-2cff:n 2d7f:m 2de0-2dff:m 2e00-2e5d:n 2e80-2e99:n
    2e9b-2ef3:n 2f00-2fd5:n 2ff0-2fff:n 3001-3004:n 3008-3020:n 302a-302d:m 3030:n 3036-3037:n
    303d-303f:n 3099-309a:m 309b-309c:n 30a0:n 30fb:n 31c0-31e5:n 31ef:n 321d-321e:n 3250-325f:n
    327c-327e:n 32b1-32bf:n 32cc-32cf:n 3377-337a:n 33de-33df:n 33ff:n 4dc0-4dff:n a490-a4c6:n
    a60d-a60f:n a66f-a672:m a673:n a674-a67d:m a67e-a67f:n a69e-a69f:m a6f0-a6f1:m a700-a721:n
    a788:n a802:m a806:m a80b:m a825-a826:m a828-a82b:n a82c:m a838-a839:n a874-a877:n a8c4-a8c5:m
    a8e0-a8f1:m a8ff:m a926-a92d:m a947-a951:m a980-a982:m a9b3:m a9b6-a9b9:m a9bc-a9bd:m a9e5:m
    aa29-aa2e:m aa31-aa32:m aa35-aa36:m aa43:m aa4c:m aa7c:m aab0:m aab2-aab4:m aab7-aab8:m
    aabe-aabf:m aac1:m aaec-aaed:m aaf6:m ab6a-ab6b:n abe5:m abe8:m abed:m fb1d:r fb1e:m
    fb1f-fb28:r fb29:n fb2a-fb36:r fb38-fb3c:r fb3e:r fb40-fb41:r fb43-fb44:r fb46-fbc2:r
    fbc3-fbd2:n fbd3-fd3d:r fd3e-fd4f:n fd50-fd8f:r fd90-fd91:n fd92-fdc7:r fdc8-fdcf:n
    fdf0-fdfc:r fdfd-fdff:n fe00-fe0f:m fe10-fe19:n fe20-fe2f:m fe30-fe52:n fe54-fe66:n
    fe68-fe6b:n fe70-fe74:r fe76-fefc:r feff:n ff01-ff0f:n ff10-ff19:e ff1a-ff20:n ff3b-ff40:n
    ff5b-ff65:n ffe0-ffe6:n ffe8-ffee:n fff9-fffd:n 10101:n 10140-1018c:n 10190-1019c:n 101a0:n
    101fd:m 102e0:m 102e1-102fb:e 10376-1037a:m 10800-10805:r 10808:r 1080a-10835:r 10837-10838:r
    1083c:r 1083f-10855:r 10857-1089e:r 108a7-108af:r 108e0-108f2:r 108f4-108f5:r 108fb-1091b:r
    1091f:n 10920-10939:r 1093f-10959:r 10980-109b7:r 109bc-109cf:r 109d2-10a00:r 10a01-10a03:m
    10a05-10a06:m 10a0c-10a0f:m 10a10-10a13:r 10a15-10a17:r 10a19-10a35:r 10a38-10a3a:m 10a3f:m
    10a40-10a48:r 10a50-10a58:r 10a60-10a9f:r 10ac0-10ae4:r 10ae5-10ae6:m 10aeb-10af6:r
    10b00-10b35:r 10b39-10b3f:n 10b40-10b55:r 10b58-10b72:r 10b78-10b91:r 10b99-10b9c:r
    10ba9-10baf:r 10c00-10c48:r 10c80-10cb2:r 10cc0-10cf2:r 10cfa-10d23:r 10d24-10d27:m
    10d30-10d39:a 10d40-10d65:r 10d69-10d6d:m 10d6e:n 10d6f-10d85:r 10d8e-10d8f:r 10e60-10e7e:a
    10e80-10ea9:r 10eab-10eac:m 10ead:r 10eb0-10eb1:r 10ec2-10ec7:r 10ed0-10ed8:n 10efa-10eff:m
    10f00-10f27:r 10f30-10f45:r 10f46-10f50:m 10f51-10f59:r 10f70-10f81:r 10f82-10f85:m
    10f86-10f89:r 10fb0-10fcb:r 10fe0-10ff6:r 11001:m 11038-11046:m 11052-11065:n 11070:m
    11073-11074:m 1107f-11081:m 110b3-110b6:m 110b9-110ba:m 110c2:m 11100-11102:m 11127-1112b:m
    1112d-11134:m 11173:m 11180-11181:m 111b6-111be:m 111c9-111cc:m 111cf:m 1122f-11231:m 11234:m
    11236-11237:m 1123e:m 11241:m 112df:m 112e3-112ea:m 11300-11301:m 1133b-1133c:m 11340:m
    11366-1136c:m 11370-11374:m 113bb-113c0:m 113ce:m 113d0:m 113d2:m 113e1-113e2:m 11438-1143f:m
    11442-11444:m 11446:m 1145e:m 114b3-114b8:m 114ba:m 114bf-114c0:m 114c2-114c3:m 115b2-115b5:m
    115bc-115bd:m 115bf-115c0:m 115dc-115dd:m 11633-1163a:m 1163d:m 1163f-11640:m 11660-1166c:n
    116ab:m 116ad:m 116b0-116b5:m 116b7:m 1171d-1171f:m 11722-11725:m 11727-1172b:m 1182f-11837:m
    11839-1183a:m 1193b-1193c:m 1193e:m 11943:m 119d4-119d7:m 119da-119db:m 119e0:m 11a01-11a06:m
    11a09-11a0a:m 11a33-11a38:m 11a3b-11a3e:m 11a47:m 11a51-11a56:m 11a59-11a5b:m 11a8a-11a96:m
    11a98-11a99:m 11b60:m 11b62-11b64:m 11b66:m 11c30-11c36:m 11c38-11c3d:m 11c92-11ca7:m
    11caa-11cb0:m 11cb2-11cb3:m 11cb5-11cb6:m 11d31-11d36:m 11d3a:m 11d3c-11d3d:m 11d3f-11d45:m
    11d47:m 11d90-11d91:m 11d95:m 11d97:m 11ef3-11ef4:m 11f00-11f01:m 11f36-11f3a:m 11f40:m
    11f42:m 11f5a:m 11fd5-11ff1:n 13440:m 13447-13455:m 1611e-16129:m 1612d-1612f:m 16af0-16af4:m
    16b30-16b36:m 16f4f:m 16f8f-16f92:m 16fe2:n 16fe4:m 1bc9d-1bc9e:m 1bca0-1bca3:n 1cc00-1ccef:n
    1ccf0-1ccf9:e 1ccfa-1ccfc:n 1cd00-1ceb3:n 1ceba-1ced0:n 1cee0-1cef0:n 1cf00-1cf2d:m
    1cf30-1cf46:m 1d167-1d169:m 1d173-1d17a:n 1d17b-1d182:m 1d185-1d18b:m 1d1aa-1d1ad:m
    1d1e9-1d1ea:n 1d200-1d241:n 1d242-1d244:m 1d245:n 1d300-1d356:n 1d6db:n 1d715:n 1d74f:n
    1d789:n 1d7c3:n 1d7ce-1d7ff:e 1da00-1da36:m 1da3b-1da6c:m 1da75:m 1da84:m 1da9b-1da9f:m
    1daa1-1daaf:m 1e000-1e006:m 1e008-1e018:m 1e01b-1e021:m 1e023-1e024:m 1e026-1e02a:m 1e08f:m
    1e130-1e136:m 1e2ae:m 1e2ec-1e2ef:m 1e2ff:n 1e4ec-1e4ef:m 1e5ee-1e5ef:m 1e6e3:m 1e6e6:m
    1e6ee-1e6ef:m 1e6f5:m 1e800-1e8c4:r 1e8c7-1e8cf:r 1e8d0-1e8d6:m 1e900-1e943:r 1e944-1e94a:m
    1e94b:r 1e950-1e959:r 1e95e-1e95f:r 1ec71-1ecb4:r 1ed01-1ed3d:r 1ee00-1ee03:r 1ee05-1ee1f:r
    1ee21-1ee22:r 1ee24:r 1ee27:r 1ee29-1ee32:r 1ee34-1ee37:r 1ee39:r 1ee3b:r 1ee42:r 1ee47:r
    1ee49:r 1ee4b:r 1ee4d-1ee4f:r 1ee51-1ee52:r 1ee54:r 1ee57:r 1ee59:r 1ee5b:r 1ee5d:r 1ee5f:r
    1ee61-1ee62:r 1ee64:r 1ee67-1ee6a:r 1ee6c-1ee72:r 1ee74-1ee77:r 1ee79-1ee7c:r 1ee7e:r
    1ee80-1ee89:r 1ee8b-1ee9b:r 1eea1-1eea3:r 1eea5-1eea9:r 1eeab-1eebb:r 1eef0-1eef1:n
    1f000-1f02b:n 1f030-1f093:n 1f0a0-1f0ae:n 1f0b1-1f0bf:n 1f0c1-1f0cf:n 1f0d1-1f0f5:n
    1f100-1f10a:e 1f10b-1f10f:n 1f12f:n 1f16a-1f16f:n 1f1ad:n 1f260-1f265:n 1f300-1f6d8:n
    1f6dc-1f6ec:n 1f6f0-1f6fc:n 1f700-1f7d9:n 1f7e0-1f7eb:n 1f7f0:n 1f800-1f80b:n 1f810-1f847:n
    1f850-1f859:n 1f860-1f887:n 1f890-1f8ad:n 1f8b0-1f8bb:n 1f8c0-1f8c1:n 1f8d0-1f8d8:n
    1f900-1fa57:n 1fa60-1fa6d:n 1fa70-1fa7c:n 1fa80-1fa8a:n 1fa8e-1fac6:n 1fac8:n 1facd-1fadc:n
    1fadf-1faea:n 1faef-1faf8:n 1fb00-1fb92:n 1fb94-1fbef:n 1fbf0-1fbf9:e 1fbfa:n e0001:n
    e0020-e007f:n e0100-e01ef:m"

/-- The direction of a character. -/
def Direction.of (c : Char) : Direction :=
  if isAscii c then
    if Text.isAsciiLetter c then left else if Text.isAsciiDigit c then number else neutral
  else (directionTable.get? c).getD left

end EarlyBreak.Unicode
