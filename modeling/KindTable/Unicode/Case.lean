import KindTable.Unicode.Ranges

namespace KindTable.Unicode

def uppercase : Ranges := .ofText [
    "41-5a c0-d6 d8-de 100 102 104 106 108 10a 10c 10e 110 112 114 116 118 11a 11c 11e 120 122 124 126",
    "128 12a 12c 12e 130 132 134 136 139 13b 13d 13f 141 143 145 147 14a 14c 14e 150 152 154 156 158 15a",
    "15c 15e 160 162 164 166 168 16a 16c 16e 170 172 174 176 178-179 17b 17d 181-182 184 186-187 189-18b",
    "18e-191 193-194 196-198 19c-19d 19f-1a0 1a2 1a4 1a6-1a7 1a9 1ac 1ae-1af 1b1-1b3 1b5 1b7-1b8 1bc 1c4",
    "1c7 1ca 1cd 1cf 1d1 1d3 1d5 1d7 1d9 1db 1de 1e0 1e2 1e4 1e6 1e8 1ea 1ec 1ee 1f1 1f4 1f6-1f8 1fa 1fc",
    "1fe 200 202 204 206 208 20a 20c 20e 210 212 214 216 218 21a 21c 21e 220 222 224 226 228 22a 22c 22e",
    "230 232 23a-23b 23d-23e 241 243-246 248 24a 24c 24e 370 372 376 37f 386 388-38a 38c 38e-38f 391-3a1",
    "3a3-3ab 3cf 3d2-3d4 3d8 3da 3dc 3de 3e0 3e2 3e4 3e6 3e8 3ea 3ec 3ee 3f4 3f7 3f9-3fa 3fd-42f 460 462",
    "464 466 468 46a 46c 46e 470 472 474 476 478 47a 47c 47e 480 48a 48c 48e 490 492 494 496 498 49a 49c",
    "49e 4a0 4a2 4a4 4a6 4a8 4aa 4ac 4ae 4b0 4b2 4b4 4b6 4b8 4ba 4bc 4be 4c0-4c1 4c3 4c5 4c7 4c9 4cb 4cd",
    "4d0 4d2 4d4 4d6 4d8 4da 4dc 4de 4e0 4e2 4e4 4e6 4e8 4ea 4ec 4ee 4f0 4f2 4f4 4f6 4f8 4fa 4fc 4fe 500",
    "502 504 506 508 50a 50c 50e 510 512 514 516 518 51a 51c 51e 520 522 524 526 528 52a 52c 52e 531-556",
    "10a0-10c5 10c7 10cd 13a0-13f5 1c89 1c90-1cba 1cbd-1cbf 1e00 1e02 1e04 1e06 1e08 1e0a 1e0c 1e0e 1e10",
    "1e12 1e14 1e16 1e18 1e1a 1e1c 1e1e 1e20 1e22 1e24 1e26 1e28 1e2a 1e2c 1e2e 1e30 1e32 1e34 1e36 1e38",
    "1e3a 1e3c 1e3e 1e40 1e42 1e44 1e46 1e48 1e4a 1e4c 1e4e 1e50 1e52 1e54 1e56 1e58 1e5a 1e5c 1e5e 1e60",
    "1e62 1e64 1e66 1e68 1e6a 1e6c 1e6e 1e70 1e72 1e74 1e76 1e78 1e7a 1e7c 1e7e 1e80 1e82 1e84 1e86 1e88",
    "1e8a 1e8c 1e8e 1e90 1e92 1e94 1e9e 1ea0 1ea2 1ea4 1ea6 1ea8 1eaa 1eac 1eae 1eb0 1eb2 1eb4 1eb6 1eb8",
    "1eba 1ebc 1ebe 1ec0 1ec2 1ec4 1ec6 1ec8 1eca 1ecc 1ece 1ed0 1ed2 1ed4 1ed6 1ed8 1eda 1edc 1ede 1ee0",
    "1ee2 1ee4 1ee6 1ee8 1eea 1eec 1eee 1ef0 1ef2 1ef4 1ef6 1ef8 1efa 1efc 1efe 1f08-1f0f 1f18-1f1d",
    "1f28-1f2f 1f38-1f3f 1f48-1f4d 1f59 1f5b 1f5d 1f5f 1f68-1f6f 1fb8-1fbb 1fc8-1fcb 1fd8-1fdb 1fe8-1fec",
    "1ff8-1ffb 2102 2107 210b-210d 2110-2112 2115 2119-211d 2124 2126 2128 212a-212d 2130-2133 213e-213f",
    "2145 2160-216f 2183 24b6-24cf 2c00-2c2f 2c60 2c62-2c64 2c67 2c69 2c6b 2c6d-2c70 2c72 2c75 2c7e-2c80",
    "2c82 2c84 2c86 2c88 2c8a 2c8c 2c8e 2c90 2c92 2c94 2c96 2c98 2c9a 2c9c 2c9e 2ca0 2ca2 2ca4 2ca6 2ca8",
    "2caa 2cac 2cae 2cb0 2cb2 2cb4 2cb6 2cb8 2cba 2cbc 2cbe 2cc0 2cc2 2cc4 2cc6 2cc8 2cca 2ccc 2cce 2cd0",
    "2cd2 2cd4 2cd6 2cd8 2cda 2cdc 2cde 2ce0 2ce2 2ceb 2ced 2cf2 a640 a642 a644 a646 a648 a64a a64c a64e",
    "a650 a652 a654 a656 a658 a65a a65c a65e a660 a662 a664 a666 a668 a66a a66c a680 a682 a684 a686 a688",
    "a68a a68c a68e a690 a692 a694 a696 a698 a69a a722 a724 a726 a728 a72a a72c a72e a732 a734 a736 a738",
    "a73a a73c a73e a740 a742 a744 a746 a748 a74a a74c a74e a750 a752 a754 a756 a758 a75a a75c a75e a760",
    "a762 a764 a766 a768 a76a a76c a76e a779 a77b a77d-a77e a780 a782 a784 a786 a78b a78d a790 a792 a796",
    "a798 a79a a79c a79e a7a0 a7a2 a7a4 a7a6 a7a8 a7aa-a7ae a7b0-a7b4 a7b6 a7b8 a7ba a7bc a7be a7c0 a7c2",
    "a7c4-a7c7 a7c9 a7cb-a7cc a7ce a7d0 a7d2 a7d4 a7d6 a7d8 a7da a7dc a7f5 ff21-ff3a 10400-10427",
    "104b0-104d3 10570-1057a 1057c-1058a 1058c-10592 10594-10595 10c80-10cb2 10d50-10d65 118a0-118bf",
    "16e40-16e5f 16ea0-16eb8 1d400-1d419 1d434-1d44d 1d468-1d481 1d49c 1d49e-1d49f 1d4a2 1d4a5-1d4a6",
    "1d4a9-1d4ac 1d4ae-1d4b5 1d4d0-1d4e9 1d504-1d505 1d507-1d50a 1d50d-1d514 1d516-1d51c 1d538-1d539",
    "1d53b-1d53e 1d540-1d544 1d546 1d54a-1d550 1d56c-1d585 1d5a0-1d5b9 1d5d4-1d5ed 1d608-1d621",
    "1d63c-1d655 1d670-1d689 1d6a8-1d6c0 1d6e2-1d6fa 1d71c-1d734 1d756-1d76e 1d790-1d7a8 1d7ca",
    "1e900-1e921 1f130-1f149 1f150-1f169 1f170-1f189"]

def isUppercase (c : Char) : Bool := if c.toNat < 128 then c.isUpper else uppercase.contains c

def lowercase : Ranges := .ofText [
    "61-7a aa b5 ba df-f6 f8-ff 101 103 105 107 109 10b 10d 10f 111 113 115 117 119 11b 11d 11f 121 123",
    "125 127 129 12b 12d 12f 131 133 135 137-138 13a 13c 13e 140 142 144 146 148-149 14b 14d 14f 151 153",
    "155 157 159 15b 15d 15f 161 163 165 167 169 16b 16d 16f 171 173 175 177 17a 17c 17e-180 183 185 188",
    "18c-18d 192 195 199-19b 19e 1a1 1a3 1a5 1a8 1aa-1ab 1ad 1b0 1b4 1b6 1b9-1ba 1bd-1bf 1c6 1c9 1cc 1ce",
    "1d0 1d2 1d4 1d6 1d8 1da 1dc-1dd 1df 1e1 1e3 1e5 1e7 1e9 1eb 1ed 1ef-1f0 1f3 1f5 1f9 1fb 1fd 1ff 201",
    "203 205 207 209 20b 20d 20f 211 213 215 217 219 21b 21d 21f 221 223 225 227 229 22b 22d 22f 231",
    "233-239 23c 23f-240 242 247 249 24b 24d 24f-293 296-2b8 2c0-2c1 2e0-2e4 345 371 373 377 37a-37d 390",
    "3ac-3ce 3d0-3d1 3d5-3d7 3d9 3db 3dd 3df 3e1 3e3 3e5 3e7 3e9 3eb 3ed 3ef-3f3 3f5 3f8 3fb-3fc 430-45f",
    "461 463 465 467 469 46b 46d 46f 471 473 475 477 479 47b 47d 47f 481 48b 48d 48f 491 493 495 497 499",
    "49b 49d 49f 4a1 4a3 4a5 4a7 4a9 4ab 4ad 4af 4b1 4b3 4b5 4b7 4b9 4bb 4bd 4bf 4c2 4c4 4c6 4c8 4ca 4cc",
    "4ce-4cf 4d1 4d3 4d5 4d7 4d9 4db 4dd 4df 4e1 4e3 4e5 4e7 4e9 4eb 4ed 4ef 4f1 4f3 4f5 4f7 4f9 4fb 4fd",
    "4ff 501 503 505 507 509 50b 50d 50f 511 513 515 517 519 51b 51d 51f 521 523 525 527 529 52b 52d 52f",
    "560-588 10d0-10fa 10fc-10ff 13f8-13fd 1c80-1c88 1c8a 1d00-1dbf 1e01 1e03 1e05 1e07 1e09 1e0b 1e0d",
    "1e0f 1e11 1e13 1e15 1e17 1e19 1e1b 1e1d 1e1f 1e21 1e23 1e25 1e27 1e29 1e2b 1e2d 1e2f 1e31 1e33 1e35",
    "1e37 1e39 1e3b 1e3d 1e3f 1e41 1e43 1e45 1e47 1e49 1e4b 1e4d 1e4f 1e51 1e53 1e55 1e57 1e59 1e5b 1e5d",
    "1e5f 1e61 1e63 1e65 1e67 1e69 1e6b 1e6d 1e6f 1e71 1e73 1e75 1e77 1e79 1e7b 1e7d 1e7f 1e81 1e83 1e85",
    "1e87 1e89 1e8b 1e8d 1e8f 1e91 1e93 1e95-1e9d 1e9f 1ea1 1ea3 1ea5 1ea7 1ea9 1eab 1ead 1eaf 1eb1 1eb3",
    "1eb5 1eb7 1eb9 1ebb 1ebd 1ebf 1ec1 1ec3 1ec5 1ec7 1ec9 1ecb 1ecd 1ecf 1ed1 1ed3 1ed5 1ed7 1ed9 1edb",
    "1edd 1edf 1ee1 1ee3 1ee5 1ee7 1ee9 1eeb 1eed 1eef 1ef1 1ef3 1ef5 1ef7 1ef9 1efb 1efd 1eff-1f07",
    "1f10-1f15 1f20-1f27 1f30-1f37 1f40-1f45 1f50-1f57 1f60-1f67 1f70-1f7d 1f80-1f87 1f90-1f97 1fa0-1fa7",
    "1fb0-1fb4 1fb6-1fb7 1fbe 1fc2-1fc4 1fc6-1fc7 1fd0-1fd3 1fd6-1fd7 1fe0-1fe7 1ff2-1ff4 1ff6-1ff7 2071",
    "207f 2090-209c 210a 210e-210f 2113 212f 2134 2139 213c-213d 2146-2149 214e 2170-217f 2184 24d0-24e9",
    "2c30-2c5f 2c61 2c65-2c66 2c68 2c6a 2c6c 2c71 2c73-2c74 2c76-2c7d 2c81 2c83 2c85 2c87 2c89 2c8b 2c8d",
    "2c8f 2c91 2c93 2c95 2c97 2c99 2c9b 2c9d 2c9f 2ca1 2ca3 2ca5 2ca7 2ca9 2cab 2cad 2caf 2cb1 2cb3 2cb5",
    "2cb7 2cb9 2cbb 2cbd 2cbf 2cc1 2cc3 2cc5 2cc7 2cc9 2ccb 2ccd 2ccf 2cd1 2cd3 2cd5 2cd7 2cd9 2cdb 2cdd",
    "2cdf 2ce1 2ce3-2ce4 2cec 2cee 2cf3 2d00-2d25 2d27 2d2d a641 a643 a645 a647 a649 a64b a64d a64f a651",
    "a653 a655 a657 a659 a65b a65d a65f a661 a663 a665 a667 a669 a66b a66d a681 a683 a685 a687 a689 a68b",
    "a68d a68f a691 a693 a695 a697 a699 a69b-a69d a723 a725 a727 a729 a72b a72d a72f-a731 a733 a735 a737",
    "a739 a73b a73d a73f a741 a743 a745 a747 a749 a74b a74d a74f a751 a753 a755 a757 a759 a75b a75d a75f",
    "a761 a763 a765 a767 a769 a76b a76d a76f-a778 a77a a77c a77f a781 a783 a785 a787 a78c a78e a791",
    "a793-a795 a797 a799 a79b a79d a79f a7a1 a7a3 a7a5 a7a7 a7a9 a7af a7b5 a7b7 a7b9 a7bb a7bd a7bf a7c1",
    "a7c3 a7c8 a7ca a7cd a7cf a7d1 a7d3 a7d5 a7d7 a7d9 a7db a7f1-a7f4 a7f6 a7f8-a7fa ab30-ab5a ab5c-ab69",
    "ab70-abbf fb00-fb06 fb13-fb17 ff41-ff5a 10428-1044f 104d8-104fb 10597-105a1 105a3-105b1 105b3-105b9",
    "105bb-105bc 10780 10783-10785 10787-107b0 107b2-107ba 10cc0-10cf2 10d70-10d85 118c0-118df",
    "16e60-16e7f 16ebb-16ed3 1d41a-1d433 1d44e-1d454 1d456-1d467 1d482-1d49b 1d4b6-1d4b9 1d4bb",
    "1d4bd-1d4c3 1d4c5-1d4cf 1d4ea-1d503 1d51e-1d537 1d552-1d56b 1d586-1d59f 1d5ba-1d5d3 1d5ee-1d607",
    "1d622-1d63b 1d656-1d66f 1d68a-1d6a5 1d6c2-1d6da 1d6dc-1d6e1 1d6fc-1d714 1d716-1d71b 1d736-1d74e",
    "1d750-1d755 1d770-1d788 1d78a-1d78f 1d7aa-1d7c2 1d7c4-1d7c9 1d7cb 1df00-1df09 1df0b-1df1e",
    "1df25-1df2a 1e030-1e06d 1e922-1e943"]

def isLowercase (c : Char) : Bool := if c.toNat < 128 then c.isLower else lowercase.contains c

def loweringText : List String := [
    "c0-d6-1-e0 d8-de-1-f8 100-12e-2-101 132-136-2-133 139-147-2-13a 14a-176-2-14b 178-178-1-ff",
    "179-17d-2-17a 181-181-1-253 182-184-2-183 186-186-1-254 187-187-1-188 189-18a-1-256 18b-18b-1-18c",
    "18e-18e-1-1dd 18f-18f-1-259 190-190-1-25b 191-191-1-192 193-193-1-260 194-194-1-263 196-196-1-269",
    "197-197-1-268 198-198-1-199 19c-19c-1-26f 19d-19d-1-272 19f-19f-1-275 1a0-1a4-2-1a1 1a6-1a6-1-280",
    "1a7-1a7-1-1a8 1a9-1a9-1-283 1ac-1ac-1-1ad 1ae-1ae-1-288 1af-1af-1-1b0 1b1-1b2-1-28a 1b3-1b5-2-1b4",
    "1b7-1b7-1-292 1b8-1b8-1-1b9 1bc-1bc-1-1bd 1c4-1c4-1-1c6 1c5-1c5-1-1c6 1c7-1c7-1-1c9 1c8-1c8-1-1c9",
    "1ca-1ca-1-1cc 1cb-1db-2-1cc 1de-1ee-2-1df 1f1-1f1-1-1f3 1f2-1f4-2-1f3 1f6-1f6-1-195 1f7-1f7-1-1bf",
    "1f8-21e-2-1f9 220-220-1-19e 222-232-2-223 23a-23a-1-2c65 23b-23b-1-23c 23d-23d-1-19a 23e-23e-1-2c66",
    "241-241-1-242 243-243-1-180 244-244-1-289 245-245-1-28c 246-24e-2-247 370-372-2-371 376-376-1-377",
    "37f-37f-1-3f3 386-386-1-3ac 388-38a-1-3ad 38c-38c-1-3cc 38e-38f-1-3cd 391-3a1-1-3b1 3a3-3ab-1-3c3",
    "3cf-3cf-1-3d7 3d8-3ee-2-3d9 3f4-3f4-1-3b8 3f7-3f7-1-3f8 3f9-3f9-1-3f2 3fa-3fa-1-3fb 3fd-3ff-1-37b",
    "400-40f-1-450 410-42f-1-430 460-480-2-461 48a-4be-2-48b 4c0-4c0-1-4cf 4c1-4cd-2-4c2 4d0-52e-2-4d1",
    "531-556-1-561 10a0-10c5-1-2d00 10c7-10c7-1-2d27 10cd-10cd-1-2d2d 13a0-13ef-1-ab70 13f0-13f5-1-13f8",
    "1c89-1c89-1-1c8a 1c90-1cba-1-10d0 1cbd-1cbf-1-10fd 1e00-1e94-2-1e01 1e9e-1e9e-1-df 1ea0-1efe-2-1ea1",
    "1f08-1f0f-1-1f00 1f18-1f1d-1-1f10 1f28-1f2f-1-1f20 1f38-1f3f-1-1f30 1f48-1f4d-1-1f40",
    "1f59-1f5f-2-1f51 1f68-1f6f-1-1f60 1f88-1f8f-1-1f80 1f98-1f9f-1-1f90 1fa8-1faf-1-1fa0",
    "1fb8-1fb9-1-1fb0 1fba-1fbb-1-1f70 1fbc-1fbc-1-1fb3 1fc8-1fcb-1-1f72 1fcc-1fcc-1-1fc3",
    "1fd8-1fd9-1-1fd0 1fda-1fdb-1-1f76 1fe8-1fe9-1-1fe0 1fea-1feb-1-1f7a 1fec-1fec-1-1fe5",
    "1ff8-1ff9-1-1f78 1ffa-1ffb-1-1f7c 1ffc-1ffc-1-1ff3 2126-2126-1-3c9 212a-212a-1-6b 212b-212b-1-e5",
    "2132-2132-1-214e 2160-216f-1-2170 2183-2183-1-2184 24b6-24cf-1-24d0 2c00-2c2f-1-2c30",
    "2c60-2c60-1-2c61 2c62-2c62-1-26b 2c63-2c63-1-1d7d 2c64-2c64-1-27d 2c67-2c6b-2-2c68 2c6d-2c6d-1-251",
    "2c6e-2c6e-1-271 2c6f-2c6f-1-250 2c70-2c70-1-252 2c72-2c72-1-2c73 2c75-2c75-1-2c76 2c7e-2c7f-1-23f",
    "2c80-2ce2-2-2c81 2ceb-2ced-2-2cec 2cf2-2cf2-1-2cf3 a640-a66c-2-a641 a680-a69a-2-a681",
    "a722-a72e-2-a723 a732-a76e-2-a733 a779-a77b-2-a77a a77d-a77d-1-1d79 a77e-a786-2-a77f",
    "a78b-a78b-1-a78c a78d-a78d-1-265 a790-a792-2-a791 a796-a7a8-2-a797 a7aa-a7aa-1-266 a7ab-a7ab-1-25c",
    "a7ac-a7ac-1-261 a7ad-a7ad-1-26c a7ae-a7ae-1-26a a7b0-a7b0-1-29e a7b1-a7b1-1-287 a7b2-a7b2-1-29d",
    "a7b3-a7b3-1-ab53 a7b4-a7c2-2-a7b5 a7c4-a7c4-1-a794 a7c5-a7c5-1-282 a7c6-a7c6-1-1d8e a7c7-a7c9-2-a7c8",
    "a7cb-a7cb-1-264 a7cc-a7da-2-a7cd a7dc-a7dc-1-19b a7f5-a7f5-1-a7f6 ff21-ff3a-1-ff41",
    "10400-10427-1-10428 104b0-104d3-1-104d8 10570-1057a-1-10597 1057c-1058a-1-105a3 1058c-10592-1-105b3",
    "10594-10595-1-105bb 10c80-10cb2-1-10cc0 10d50-10d65-1-10d70 118a0-118bf-1-118c0 16e40-16e5f-1-16e60",
    "16ea0-16eb8-1-16ebb 1e900-1e921-1-1e922"]

structure LoweringRun where
  first : Nat
  last : Nat
  step : Nat
  image : Nat

def lowering : List LoweringRun :=
  (loweringText.flatMap fun line => splitAt ' ' line.toList).filterMap fun word =>
    match (splitAt '-' word).map readHex with
    | [first, last, step, image] => some ⟨first, last, step, image⟩
    | _ => none

def LoweringRun.image? (run : LoweringRun) (point : Nat) : Option Nat :=
  if run.first ≤ point ∧ point ≤ run.last ∧ (point - run.first) % run.step = 0 then
    some (run.image + (point - run.first))
  else none

def toLowercase (c : Char) : List Char :=
  if c.toNat < 128 then [c.toLower]
  else if c.toNat = 0x130 then ['i', '\u0307']
  else
    match lowering.findSome? (·.image? c.toNat) with
    | some point => [.ofNat point]
    | none => [c]

end KindTable.Unicode
