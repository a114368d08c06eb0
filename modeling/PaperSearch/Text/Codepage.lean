/-!
# Character sets of one byte

Each of these sets extends ASCII by characters for the bytes from 128 on. A table is a list of
runs: the first byte, the character it stands for, and how many bytes and characters follow one
another from there. A byte below 160 in no run stands for the control character of that number;
one from 160 on stands for none.

* `Codepage.ofLabel?` finds a set by any of its names.
* `Codepage.decode` reads bytes.
-/

namespace PaperSearch.Text

structure Codepage where
  runs : List (Nat × Nat × Nat)
  deriving Repr

namespace Codepage

def ibm866 : Codepage where
  runs := [(128, 1040, 48), (176, 9617, 3), (179, 9474, 1), (180, 9508, 1), (181, 9569, 2),
    (183, 9558, 1), (184, 9557, 1), (185, 9571, 1), (186, 9553, 1), (187, 9559, 1),
    (188, 9565, 1), (189, 9564, 1), (190, 9563, 1), (191, 9488, 1), (192, 9492, 1),
    (193, 9524, 1), (194, 9516, 1), (195, 9500, 1), (196, 9472, 1), (197, 9532, 1),
    (198, 9566, 2), (200, 9562, 1), (201, 9556, 1), (202, 9577, 1), (203, 9574, 1),
    (204, 9568, 1), (205, 9552, 1), (206, 9580, 1), (207, 9575, 2), (209, 9572, 2),
    (211, 9561, 1), (212, 9560, 1), (213, 9554, 2), (215, 9579, 1), (216, 9578, 1),
    (217, 9496, 1), (218, 9484, 1), (219, 9608, 1), (220, 9604, 1), (221, 9612, 1),
    (222, 9616, 1), (223, 9600, 1), (224, 1088, 16), (240, 1025, 1), (241, 1105, 1),
    (242, 1028, 1), (243, 1108, 1), (244, 1031, 1), (245, 1111, 1), (246, 1038, 1),
    (247, 1118, 1), (248, 176, 1), (249, 8729, 1), (250, 183, 1), (251, 8730, 1), (252, 8470, 1),
    (253, 164, 1), (254, 9632, 1), (255, 160, 1)]

def latin2 : Codepage where
  runs := [(160, 160, 1), (161, 260, 1), (162, 728, 1), (163, 321, 1), (164, 164, 1),
    (165, 317, 1), (166, 346, 1), (167, 167, 2), (169, 352, 1), (170, 350, 1), (171, 356, 1),
    (172, 377, 1), (173, 173, 1), (174, 381, 1), (175, 379, 1), (176, 176, 1), (177, 261, 1),
    (178, 731, 1), (179, 322, 1), (180, 180, 1), (181, 318, 1), (182, 347, 1), (183, 711, 1),
    (184, 184, 1), (185, 353, 1), (186, 351, 1), (187, 357, 1), (188, 378, 1), (189, 733, 1),
    (190, 382, 1), (191, 380, 1), (192, 340, 1), (193, 193, 2), (195, 258, 1), (196, 196, 1),
    (197, 313, 1), (198, 262, 1), (199, 199, 1), (200, 268, 1), (201, 201, 1), (202, 280, 1),
    (203, 203, 1), (204, 282, 1), (205, 205, 2), (207, 270, 1), (208, 272, 1), (209, 323, 1),
    (210, 327, 1), (211, 211, 2), (213, 336, 1), (214, 214, 2), (216, 344, 1), (217, 366, 1),
    (218, 218, 1), (219, 368, 1), (220, 220, 2), (222, 354, 1), (223, 223, 1), (224, 341, 1),
    (225, 225, 2), (227, 259, 1), (228, 228, 1), (229, 314, 1), (230, 263, 1), (231, 231, 1),
    (232, 269, 1), (233, 233, 1), (234, 281, 1), (235, 235, 1), (236, 283, 1), (237, 237, 2),
    (239, 271, 1), (240, 273, 1), (241, 324, 1), (242, 328, 1), (243, 243, 2), (245, 337, 1),
    (246, 246, 2), (248, 345, 1), (249, 367, 1), (250, 250, 1), (251, 369, 1), (252, 252, 2),
    (254, 355, 1), (255, 729, 1)]

def latin3 : Codepage where
  runs := [(160, 160, 1), (161, 294, 1), (162, 728, 1), (163, 163, 2), (166, 292, 1),
    (167, 167, 2), (169, 304, 1), (170, 350, 1), (171, 286, 1), (172, 308, 1), (173, 173, 1),
    (175, 379, 1), (176, 176, 1), (177, 295, 1), (178, 178, 4), (182, 293, 1), (183, 183, 2),
    (185, 305, 1), (186, 351, 1), (187, 287, 1), (188, 309, 1), (189, 189, 1), (191, 380, 1),
    (192, 192, 3), (196, 196, 1), (197, 266, 1), (198, 264, 1), (199, 199, 9), (209, 209, 4),
    (213, 288, 1), (214, 214, 2), (216, 284, 1), (217, 217, 4), (221, 364, 1), (222, 348, 1),
    (223, 223, 4), (228, 228, 1), (229, 267, 1), (230, 265, 1), (231, 231, 9), (241, 241, 4),
    (245, 289, 1), (246, 246, 2), (248, 285, 1), (249, 249, 4), (253, 365, 1), (254, 349, 1),
    (255, 729, 1)]

def latin4 : Codepage where
  runs := [(160, 160, 1), (161, 260, 1), (162, 312, 1), (163, 342, 1), (164, 164, 1),
    (165, 296, 1), (166, 315, 1), (167, 167, 2), (169, 352, 1), (170, 274, 1), (171, 290, 1),
    (172, 358, 1), (173, 173, 1), (174, 381, 1), (175, 175, 2), (177, 261, 1), (178, 731, 1),
    (179, 343, 1), (180, 180, 1), (181, 297, 1), (182, 316, 1), (183, 711, 1), (184, 184, 1),
    (185, 353, 1), (186, 275, 1), (187, 291, 1), (188, 359, 1), (189, 330, 1), (190, 382, 1),
    (191, 331, 1), (192, 256, 1), (193, 193, 6), (199, 302, 1), (200, 268, 1), (201, 201, 1),
    (202, 280, 1), (203, 203, 1), (204, 278, 1), (205, 205, 2), (207, 298, 1), (208, 272, 1),
    (209, 325, 1), (210, 332, 1), (211, 310, 1), (212, 212, 5), (217, 370, 1), (218, 218, 3),
    (221, 360, 1), (222, 362, 1), (223, 223, 1), (224, 257, 1), (225, 225, 6), (231, 303, 1),
    (232, 269, 1), (233, 233, 1), (234, 281, 1), (235, 235, 1), (236, 279, 1), (237, 237, 2),
    (239, 299, 1), (240, 273, 1), (241, 326, 1), (242, 333, 1), (243, 311, 1), (244, 244, 5),
    (249, 371, 1), (250, 250, 3), (253, 361, 1), (254, 363, 1), (255, 729, 1)]

def isoCyrillic : Codepage where
  runs := [(160, 160, 1), (161, 1025, 12), (173, 173, 1), (174, 1038, 66), (240, 8470, 1),
    (241, 1105, 12), (253, 167, 1), (254, 1118, 2)]

def isoArabic : Codepage where
  runs := [(160, 160, 1), (164, 164, 1), (172, 1548, 1), (173, 173, 1), (187, 1563, 1),
    (191, 1567, 1), (193, 1569, 26), (224, 1600, 19)]

def isoGreek : Codepage where
  runs := [(160, 160, 1), (161, 8216, 2), (163, 163, 1), (164, 8364, 1), (165, 8367, 1),
    (166, 166, 4), (170, 890, 1), (171, 171, 3), (175, 8213, 1), (176, 176, 4), (180, 900, 3),
    (183, 183, 1), (184, 904, 3), (187, 187, 1), (188, 908, 1), (189, 189, 1), (190, 910, 20),
    (211, 931, 44)]

def isoHebrew : Codepage where
  runs := [(160, 160, 1), (162, 162, 8), (170, 215, 1), (171, 171, 15), (186, 247, 1),
    (187, 187, 4), (223, 8215, 1), (224, 1488, 27), (253, 8206, 2)]

def latin6 : Codepage where
  runs := [(160, 160, 1), (161, 260, 1), (162, 274, 1), (163, 290, 1), (164, 298, 1),
    (165, 296, 1), (166, 310, 1), (167, 167, 1), (168, 315, 1), (169, 272, 1), (170, 352, 1),
    (171, 358, 1), (172, 381, 1), (173, 173, 1), (174, 362, 1), (175, 330, 1), (176, 176, 1),
    (177, 261, 1), (178, 275, 1), (179, 291, 1), (180, 299, 1), (181, 297, 1), (182, 311, 1),
    (183, 183, 1), (184, 316, 1), (185, 273, 1), (186, 353, 1), (187, 359, 1), (188, 382, 1),
    (189, 8213, 1), (190, 363, 1), (191, 331, 1), (192, 256, 1), (193, 193, 6), (199, 302, 1),
    (200, 268, 1), (201, 201, 1), (202, 280, 1), (203, 203, 1), (204, 278, 1), (205, 205, 4),
    (209, 325, 1), (210, 332, 1), (211, 211, 4), (215, 360, 1), (216, 216, 1), (217, 370, 1),
    (218, 218, 6), (224, 257, 1), (225, 225, 6), (231, 303, 1), (232, 269, 1), (233, 233, 1),
    (234, 281, 1), (235, 235, 1), (236, 279, 1), (237, 237, 4), (241, 326, 1), (242, 333, 1),
    (243, 243, 4), (247, 361, 1), (248, 248, 1), (249, 371, 1), (250, 250, 5), (255, 312, 1)]

def latin7 : Codepage where
  runs := [(160, 160, 1), (161, 8221, 1), (162, 162, 3), (165, 8222, 1), (166, 166, 2),
    (168, 216, 1), (169, 169, 1), (170, 342, 1), (171, 171, 4), (175, 198, 1), (176, 176, 4),
    (180, 8220, 1), (181, 181, 3), (184, 248, 1), (185, 185, 1), (186, 343, 1), (187, 187, 4),
    (191, 230, 1), (192, 260, 1), (193, 302, 1), (194, 256, 1), (195, 262, 1), (196, 196, 2),
    (198, 280, 1), (199, 274, 1), (200, 268, 1), (201, 201, 1), (202, 377, 1), (203, 278, 1),
    (204, 290, 1), (205, 310, 1), (206, 298, 1), (207, 315, 1), (208, 352, 1), (209, 323, 1),
    (210, 325, 1), (211, 211, 1), (212, 332, 1), (213, 213, 3), (216, 370, 1), (217, 321, 1),
    (218, 346, 1), (219, 362, 1), (220, 220, 1), (221, 379, 1), (222, 381, 1), (223, 223, 1),
    (224, 261, 1), (225, 303, 1), (226, 257, 1), (227, 263, 1), (228, 228, 2), (230, 281, 1),
    (231, 275, 1), (232, 269, 1), (233, 233, 1), (234, 378, 1), (235, 279, 1), (236, 291, 1),
    (237, 311, 1), (238, 299, 1), (239, 316, 1), (240, 353, 1), (241, 324, 1), (242, 326, 1),
    (243, 243, 1), (244, 333, 1), (245, 245, 3), (248, 371, 1), (249, 322, 1), (250, 347, 1),
    (251, 363, 1), (252, 252, 1), (253, 380, 1), (254, 382, 1), (255, 8217, 1)]

def latin8 : Codepage where
  runs := [(160, 160, 1), (161, 7682, 2), (163, 163, 1), (164, 266, 2), (166, 7690, 1),
    (167, 167, 1), (168, 7808, 1), (169, 169, 1), (170, 7810, 1), (171, 7691, 1), (172, 7922, 1),
    (173, 173, 2), (175, 376, 1), (176, 7710, 2), (178, 288, 2), (180, 7744, 2), (182, 182, 1),
    (183, 7766, 1), (184, 7809, 1), (185, 7767, 1), (186, 7811, 1), (187, 7776, 1),
    (188, 7923, 1), (189, 7812, 2), (191, 7777, 1), (192, 192, 16), (208, 372, 1), (209, 209, 6),
    (215, 7786, 1), (216, 216, 6), (222, 374, 1), (223, 223, 17), (240, 373, 1), (241, 241, 6),
    (247, 7787, 1), (248, 248, 6), (254, 375, 1), (255, 255, 1)]

def latin9 : Codepage where
  runs := [(160, 160, 4), (164, 8364, 1), (165, 165, 1), (166, 352, 1), (167, 167, 1),
    (168, 353, 1), (169, 169, 11), (180, 381, 1), (181, 181, 3), (184, 382, 1), (185, 185, 3),
    (188, 338, 2), (190, 376, 1), (191, 191, 65)]

def latin10 : Codepage where
  runs := [(160, 160, 1), (161, 260, 2), (163, 321, 1), (164, 8364, 1), (165, 8222, 1),
    (166, 352, 1), (167, 167, 1), (168, 353, 1), (169, 169, 1), (170, 536, 1), (171, 171, 1),
    (172, 377, 1), (173, 173, 1), (174, 378, 2), (176, 176, 2), (178, 268, 1), (179, 322, 1),
    (180, 381, 1), (181, 8221, 1), (182, 182, 2), (184, 382, 1), (185, 269, 1), (186, 537, 1),
    (187, 187, 1), (188, 338, 2), (190, 376, 1), (191, 380, 1), (192, 192, 3), (195, 258, 1),
    (196, 196, 1), (197, 262, 1), (198, 198, 10), (208, 272, 1), (209, 323, 1), (210, 210, 3),
    (213, 336, 1), (214, 214, 1), (215, 346, 1), (216, 368, 1), (217, 217, 4), (221, 280, 1),
    (222, 538, 1), (223, 223, 4), (227, 259, 1), (228, 228, 1), (229, 263, 1), (230, 230, 10),
    (240, 273, 1), (241, 324, 1), (242, 242, 3), (245, 337, 1), (246, 246, 1), (247, 347, 1),
    (248, 369, 1), (249, 249, 4), (253, 281, 1), (254, 539, 1), (255, 255, 1)]

def koi8R : Codepage where
  runs := [(128, 9472, 1), (129, 9474, 1), (130, 9484, 1), (131, 9488, 1), (132, 9492, 1),
    (133, 9496, 1), (134, 9500, 1), (135, 9508, 1), (136, 9516, 1), (137, 9524, 1),
    (138, 9532, 1), (139, 9600, 1), (140, 9604, 1), (141, 9608, 1), (142, 9612, 1),
    (143, 9616, 4), (147, 8992, 1), (148, 9632, 1), (149, 8729, 2), (151, 8776, 1),
    (152, 8804, 2), (154, 160, 1), (155, 8993, 1), (156, 176, 1), (157, 178, 1), (158, 183, 1),
    (159, 247, 1), (160, 9552, 3), (163, 1105, 1), (164, 9555, 15), (179, 1025, 1),
    (180, 9570, 11), (191, 169, 1), (192, 1102, 1), (193, 1072, 2), (195, 1094, 1),
    (196, 1076, 2), (198, 1092, 1), (199, 1075, 1), (200, 1093, 1), (201, 1080, 8),
    (209, 1103, 1), (210, 1088, 4), (214, 1078, 1), (215, 1074, 1), (216, 1100, 1),
    (217, 1099, 1), (218, 1079, 1), (219, 1096, 1), (220, 1101, 1), (221, 1097, 1),
    (222, 1095, 1), (223, 1098, 1), (224, 1070, 1), (225, 1040, 2), (227, 1062, 1),
    (228, 1044, 2), (230, 1060, 1), (231, 1043, 1), (232, 1061, 1), (233, 1048, 8),
    (241, 1071, 1), (242, 1056, 4), (246, 1046, 1), (247, 1042, 1), (248, 1068, 1),
    (249, 1067, 1), (250, 1047, 1), (251, 1064, 1), (252, 1069, 1), (253, 1065, 1),
    (254, 1063, 1), (255, 1066, 1)]

def koi8U : Codepage where
  runs := [(128, 9472, 1), (129, 9474, 1), (130, 9484, 1), (131, 9488, 1), (132, 9492, 1),
    (133, 9496, 1), (134, 9500, 1), (135, 9508, 1), (136, 9516, 1), (137, 9524, 1),
    (138, 9532, 1), (139, 9600, 1), (140, 9604, 1), (141, 9608, 1), (142, 9612, 1),
    (143, 9616, 4), (147, 8992, 1), (148, 9632, 1), (149, 8729, 2), (151, 8776, 1),
    (152, 8804, 2), (154, 160, 1), (155, 8993, 1), (156, 176, 1), (157, 178, 1), (158, 183, 1),
    (159, 247, 1), (160, 9552, 3), (163, 1105, 1), (164, 1108, 1), (165, 9556, 1), (166, 1110, 2),
    (168, 9559, 5), (173, 1169, 1), (174, 1118, 1), (175, 9566, 4), (179, 1025, 1),
    (180, 1028, 1), (181, 9571, 1), (182, 1030, 2), (184, 9574, 5), (189, 1168, 1),
    (190, 1038, 1), (191, 169, 1), (192, 1102, 1), (193, 1072, 2), (195, 1094, 1), (196, 1076, 2),
    (198, 1092, 1), (199, 1075, 1), (200, 1093, 1), (201, 1080, 8), (209, 1103, 1),
    (210, 1088, 4), (214, 1078, 1), (215, 1074, 1), (216, 1100, 1), (217, 1099, 1),
    (218, 1079, 1), (219, 1096, 1), (220, 1101, 1), (221, 1097, 1), (222, 1095, 1),
    (223, 1098, 1), (224, 1070, 1), (225, 1040, 2), (227, 1062, 1), (228, 1044, 2),
    (230, 1060, 1), (231, 1043, 1), (232, 1061, 1), (233, 1048, 8), (241, 1071, 1),
    (242, 1056, 4), (246, 1046, 1), (247, 1042, 1), (248, 1068, 1), (249, 1067, 1),
    (250, 1047, 1), (251, 1064, 1), (252, 1069, 1), (253, 1065, 1), (254, 1063, 1),
    (255, 1066, 1)]

def macintosh : Codepage where
  runs := [(128, 196, 2), (130, 199, 1), (131, 201, 1), (132, 209, 1), (133, 214, 1),
    (134, 220, 1), (135, 225, 1), (136, 224, 1), (137, 226, 1), (138, 228, 1), (139, 227, 1),
    (140, 229, 1), (141, 231, 1), (142, 233, 1), (143, 232, 1), (144, 234, 2), (146, 237, 1),
    (147, 236, 1), (148, 238, 2), (150, 241, 1), (151, 243, 1), (152, 242, 1), (153, 244, 1),
    (154, 246, 1), (155, 245, 1), (156, 250, 1), (157, 249, 1), (158, 251, 2), (160, 8224, 1),
    (161, 176, 1), (162, 162, 2), (164, 167, 1), (165, 8226, 1), (166, 182, 1), (167, 223, 1),
    (168, 174, 1), (169, 169, 1), (170, 8482, 1), (171, 180, 1), (172, 168, 1), (173, 8800, 1),
    (174, 198, 1), (175, 216, 1), (176, 8734, 1), (177, 177, 1), (178, 8804, 2), (180, 165, 1),
    (181, 181, 1), (182, 8706, 1), (183, 8721, 1), (184, 8719, 1), (185, 960, 1), (186, 8747, 1),
    (187, 170, 1), (188, 186, 1), (189, 937, 1), (190, 230, 1), (191, 248, 1), (192, 191, 1),
    (193, 161, 1), (194, 172, 1), (195, 8730, 1), (196, 402, 1), (197, 8776, 1), (198, 8710, 1),
    (199, 171, 1), (200, 187, 1), (201, 8230, 1), (202, 160, 1), (203, 192, 1), (204, 195, 1),
    (205, 213, 1), (206, 338, 2), (208, 8211, 2), (210, 8220, 2), (212, 8216, 2), (214, 247, 1),
    (215, 9674, 1), (216, 255, 1), (217, 376, 1), (218, 8260, 1), (219, 8364, 1), (220, 8249, 2),
    (222, 64257, 2), (224, 8225, 1), (225, 183, 1), (226, 8218, 1), (227, 8222, 1),
    (228, 8240, 1), (229, 194, 1), (230, 202, 1), (231, 193, 1), (232, 203, 1), (233, 200, 1),
    (234, 205, 3), (237, 204, 1), (238, 211, 2), (240, 63743, 1), (241, 210, 1), (242, 218, 2),
    (244, 217, 1), (245, 305, 1), (246, 710, 1), (247, 732, 1), (248, 175, 1), (249, 728, 3),
    (252, 184, 1), (253, 733, 1), (254, 731, 1), (255, 711, 1)]

def windows874 : Codepage where
  runs := [(128, 8364, 1), (133, 8230, 1), (145, 8216, 2), (147, 8220, 2), (149, 8226, 1),
    (150, 8211, 2), (160, 160, 1), (161, 3585, 58), (223, 3647, 29)]

def windows1250 : Codepage where
  runs := [(128, 8364, 1), (130, 8218, 1), (132, 8222, 1), (133, 8230, 1), (134, 8224, 2),
    (137, 8240, 1), (138, 352, 1), (139, 8249, 1), (140, 346, 1), (141, 356, 1), (142, 381, 1),
    (143, 377, 1), (145, 8216, 2), (147, 8220, 2), (149, 8226, 1), (150, 8211, 2), (153, 8482, 1),
    (154, 353, 1), (155, 8250, 1), (156, 347, 1), (157, 357, 1), (158, 382, 1), (159, 378, 1),
    (160, 160, 1), (161, 711, 1), (162, 728, 1), (163, 321, 1), (164, 164, 1), (165, 260, 1),
    (166, 166, 4), (170, 350, 1), (171, 171, 4), (175, 379, 1), (176, 176, 2), (178, 731, 1),
    (179, 322, 1), (180, 180, 5), (185, 261, 1), (186, 351, 1), (187, 187, 1), (188, 317, 1),
    (189, 733, 1), (190, 318, 1), (191, 380, 1), (192, 340, 1), (193, 193, 2), (195, 258, 1),
    (196, 196, 1), (197, 313, 1), (198, 262, 1), (199, 199, 1), (200, 268, 1), (201, 201, 1),
    (202, 280, 1), (203, 203, 1), (204, 282, 1), (205, 205, 2), (207, 270, 1), (208, 272, 1),
    (209, 323, 1), (210, 327, 1), (211, 211, 2), (213, 336, 1), (214, 214, 2), (216, 344, 1),
    (217, 366, 1), (218, 218, 1), (219, 368, 1), (220, 220, 2), (222, 354, 1), (223, 223, 1),
    (224, 341, 1), (225, 225, 2), (227, 259, 1), (228, 228, 1), (229, 314, 1), (230, 263, 1),
    (231, 231, 1), (232, 269, 1), (233, 233, 1), (234, 281, 1), (235, 235, 1), (236, 283, 1),
    (237, 237, 2), (239, 271, 1), (240, 273, 1), (241, 324, 1), (242, 328, 1), (243, 243, 2),
    (245, 337, 1), (246, 246, 2), (248, 345, 1), (249, 367, 1), (250, 250, 1), (251, 369, 1),
    (252, 252, 2), (254, 355, 1), (255, 729, 1)]

def windows1251 : Codepage where
  runs := [(128, 1026, 2), (130, 8218, 1), (131, 1107, 1), (132, 8222, 1), (133, 8230, 1),
    (134, 8224, 2), (136, 8364, 1), (137, 8240, 1), (138, 1033, 1), (139, 8249, 1),
    (140, 1034, 1), (141, 1036, 1), (142, 1035, 1), (143, 1039, 1), (144, 1106, 1),
    (145, 8216, 2), (147, 8220, 2), (149, 8226, 1), (150, 8211, 2), (153, 8482, 1),
    (154, 1113, 1), (155, 8250, 1), (156, 1114, 1), (157, 1116, 1), (158, 1115, 1),
    (159, 1119, 1), (160, 160, 1), (161, 1038, 1), (162, 1118, 1), (163, 1032, 1), (164, 164, 1),
    (165, 1168, 1), (166, 166, 2), (168, 1025, 1), (169, 169, 1), (170, 1028, 1), (171, 171, 4),
    (175, 1031, 1), (176, 176, 2), (178, 1030, 1), (179, 1110, 1), (180, 1169, 1), (181, 181, 3),
    (184, 1105, 1), (185, 8470, 1), (186, 1108, 1), (187, 187, 1), (188, 1112, 1), (189, 1029, 1),
    (190, 1109, 1), (191, 1111, 1), (192, 1040, 64)]

def windows1252 : Codepage where
  runs := [(128, 8364, 1), (130, 8218, 1), (131, 402, 1), (132, 8222, 1), (133, 8230, 1),
    (134, 8224, 2), (136, 710, 1), (137, 8240, 1), (138, 352, 1), (139, 8249, 1), (140, 338, 1),
    (142, 381, 1), (145, 8216, 2), (147, 8220, 2), (149, 8226, 1), (150, 8211, 2), (152, 732, 1),
    (153, 8482, 1), (154, 353, 1), (155, 8250, 1), (156, 339, 1), (158, 382, 1), (159, 376, 1),
    (160, 160, 96)]

def windows1253 : Codepage where
  runs := [(128, 8364, 1), (130, 8218, 1), (131, 402, 1), (132, 8222, 1), (133, 8230, 1),
    (134, 8224, 2), (137, 8240, 1), (139, 8249, 1), (145, 8216, 2), (147, 8220, 2),
    (149, 8226, 1), (150, 8211, 2), (153, 8482, 1), (155, 8250, 1), (160, 160, 1), (161, 901, 2),
    (163, 163, 7), (171, 171, 4), (175, 8213, 1), (176, 176, 4), (180, 900, 1), (181, 181, 3),
    (184, 904, 3), (187, 187, 1), (188, 908, 1), (189, 189, 1), (190, 910, 20), (211, 931, 44)]

def windows1254 : Codepage where
  runs := [(128, 8364, 1), (130, 8218, 1), (131, 402, 1), (132, 8222, 1), (133, 8230, 1),
    (134, 8224, 2), (136, 710, 1), (137, 8240, 1), (138, 352, 1), (139, 8249, 1), (140, 338, 1),
    (145, 8216, 2), (147, 8220, 2), (149, 8226, 1), (150, 8211, 2), (152, 732, 1), (153, 8482, 1),
    (154, 353, 1), (155, 8250, 1), (156, 339, 1), (159, 376, 1), (160, 160, 48), (208, 286, 1),
    (209, 209, 12), (221, 304, 1), (222, 350, 1), (223, 223, 17), (240, 287, 1), (241, 241, 12),
    (253, 305, 1), (254, 351, 1), (255, 255, 1)]

def windows1256 : Codepage where
  runs := [(128, 8364, 1), (129, 1662, 1), (130, 8218, 1), (131, 402, 1), (132, 8222, 1),
    (133, 8230, 1), (134, 8224, 2), (136, 710, 1), (137, 8240, 1), (138, 1657, 1), (139, 8249, 1),
    (140, 338, 1), (141, 1670, 1), (142, 1688, 1), (143, 1672, 1), (144, 1711, 1), (145, 8216, 2),
    (147, 8220, 2), (149, 8226, 1), (150, 8211, 2), (152, 1705, 1), (153, 8482, 1),
    (154, 1681, 1), (155, 8250, 1), (156, 339, 1), (157, 8204, 2), (159, 1722, 1), (160, 160, 1),
    (161, 1548, 1), (162, 162, 8), (170, 1726, 1), (171, 171, 15), (186, 1563, 1), (187, 187, 4),
    (191, 1567, 1), (192, 1729, 1), (193, 1569, 22), (215, 215, 1), (216, 1591, 4),
    (220, 1600, 4), (224, 224, 1), (225, 1604, 1), (226, 226, 1), (227, 1605, 4), (231, 231, 5),
    (236, 1609, 2), (238, 238, 2), (240, 1611, 4), (244, 244, 1), (245, 1615, 2), (247, 247, 1),
    (248, 1617, 1), (249, 249, 1), (250, 1618, 1), (251, 251, 2), (253, 8206, 2), (255, 1746, 1)]

def windows1257 : Codepage where
  runs := [(128, 8364, 1), (130, 8218, 1), (132, 8222, 1), (133, 8230, 1), (134, 8224, 2),
    (137, 8240, 1), (139, 8249, 1), (141, 168, 1), (142, 711, 1), (143, 184, 1), (145, 8216, 2),
    (147, 8220, 2), (149, 8226, 1), (150, 8211, 2), (153, 8482, 1), (155, 8250, 1), (157, 175, 1),
    (158, 731, 1), (160, 160, 1), (162, 162, 3), (166, 166, 2), (168, 216, 1), (169, 169, 1),
    (170, 342, 1), (171, 171, 4), (175, 198, 1), (176, 176, 8), (184, 248, 1), (185, 185, 1),
    (186, 343, 1), (187, 187, 4), (191, 230, 1), (192, 260, 1), (193, 302, 1), (194, 256, 1),
    (195, 262, 1), (196, 196, 2), (198, 280, 1), (199, 274, 1), (200, 268, 1), (201, 201, 1),
    (202, 377, 1), (203, 278, 1), (204, 290, 1), (205, 310, 1), (206, 298, 1), (207, 315, 1),
    (208, 352, 1), (209, 323, 1), (210, 325, 1), (211, 211, 1), (212, 332, 1), (213, 213, 3),
    (216, 370, 1), (217, 321, 1), (218, 346, 1), (219, 362, 1), (220, 220, 1), (221, 379, 1),
    (222, 381, 1), (223, 223, 1), (224, 261, 1), (225, 303, 1), (226, 257, 1), (227, 263, 1),
    (228, 228, 2), (230, 281, 1), (231, 275, 1), (232, 269, 1), (233, 233, 1), (234, 378, 1),
    (235, 279, 1), (236, 291, 1), (237, 311, 1), (238, 299, 1), (239, 316, 1), (240, 353, 1),
    (241, 324, 1), (242, 326, 1), (243, 243, 1), (244, 333, 1), (245, 245, 3), (248, 371, 1),
    (249, 322, 1), (250, 347, 1), (251, 363, 1), (252, 252, 1), (253, 380, 1), (254, 382, 1),
    (255, 729, 1)]

def windows1258 : Codepage where
  runs := [(128, 8364, 1), (130, 8218, 1), (131, 402, 1), (132, 8222, 1), (133, 8230, 1),
    (134, 8224, 2), (136, 710, 1), (137, 8240, 1), (139, 8249, 1), (140, 338, 1), (145, 8216, 2),
    (147, 8220, 2), (149, 8226, 1), (150, 8211, 2), (152, 732, 1), (153, 8482, 1), (155, 8250, 1),
    (156, 339, 1), (159, 376, 1), (160, 160, 35), (195, 258, 1), (196, 196, 8), (204, 768, 1),
    (205, 205, 3), (208, 272, 1), (209, 209, 1), (210, 777, 1), (211, 211, 2), (213, 416, 1),
    (214, 214, 7), (221, 431, 1), (222, 771, 1), (223, 223, 4), (227, 259, 1), (228, 228, 8),
    (236, 769, 1), (237, 237, 3), (240, 273, 1), (241, 241, 1), (242, 803, 1), (243, 243, 2),
    (245, 417, 1), (246, 246, 7), (253, 432, 1), (254, 8363, 1), (255, 255, 1)]

def windows1255 : Codepage where
  runs := [(128, 8364, 1), (130, 8218, 1), (131, 402, 1), (132, 8222, 1), (133, 8230, 1),
    (134, 8224, 2), (136, 710, 1), (137, 8240, 1), (139, 8249, 1), (145, 8216, 2), (147, 8220, 2),
    (149, 8226, 1), (150, 8211, 2), (152, 732, 1), (153, 8482, 1), (155, 8250, 1), (160, 160, 4),
    (164, 8362, 1), (165, 165, 5), (170, 215, 1), (171, 171, 15), (186, 247, 1), (187, 187, 5),
    (192, 1456, 20), (212, 1520, 5), (224, 1488, 27), (253, 8206, 2)]

def macCyrillic : Codepage where
  runs := [(128, 1040, 32), (160, 8224, 1), (161, 176, 1), (162, 1168, 1), (163, 163, 1),
    (164, 167, 1), (165, 8226, 1), (166, 182, 1), (167, 1030, 1), (168, 174, 1), (169, 169, 1),
    (170, 8482, 1), (171, 1026, 1), (172, 1106, 1), (173, 8800, 1), (174, 1027, 1),
    (175, 1107, 1), (176, 8734, 1), (177, 177, 1), (178, 8804, 2), (180, 1110, 1), (181, 181, 1),
    (182, 1169, 1), (183, 1032, 1), (184, 1028, 1), (185, 1108, 1), (186, 1031, 1),
    (187, 1111, 1), (188, 1033, 1), (189, 1113, 1), (190, 1034, 1), (191, 1114, 1),
    (192, 1112, 1), (193, 1029, 1), (194, 172, 1), (195, 8730, 1), (196, 402, 1), (197, 8776, 1),
    (198, 8710, 1), (199, 171, 1), (200, 187, 1), (201, 8230, 1), (202, 160, 1), (203, 1035, 1),
    (204, 1115, 1), (205, 1036, 1), (206, 1116, 1), (207, 1109, 1), (208, 8211, 2),
    (210, 8220, 2), (212, 8216, 2), (214, 247, 1), (215, 8222, 1), (216, 1038, 1), (217, 1118, 1),
    (218, 1039, 1), (219, 1119, 1), (220, 8470, 1), (221, 1025, 1), (222, 1105, 1),
    (223, 1103, 1), (224, 1072, 31), (255, 8364, 1)]

/-- The character of a byte. -/
def char (page : Codepage) (b : UInt8) : Char :=
  let n := b.toNat
  if n < 128 then Char.ofNat n
  else
    match page.runs.find? fun (first, _, count) => first ≤ n && n < first + count with
    | some (first, code, _) => Char.ofNat (code + (n - first))
    | none => if n < 160 then Char.ofNat n else '\ufffd'

/-- The text of bytes. -/
def decode (page : Codepage) (bytes : List UInt8) : List Char :=
  bytes.map page.char

/-- The names of each set. -/
def labels : List (List String × Codepage) :=
  [(["866", "cp866", "csibm866", "ibm866"], ibm866),
   (["csisolatin2", "iso-8859-2", "iso-ir-101", "iso8859-2", "iso88592", "iso_8859-2",
      "iso_8859-2:1987", "l2", "latin2"], latin2),
   (["csisolatin3", "iso-8859-3", "iso-ir-109", "iso8859-3", "iso88593", "iso_8859-3",
      "iso_8859-3:1988", "l3", "latin3"], latin3),
   (["csisolatin4", "iso-8859-4", "iso-ir-110", "iso8859-4", "iso88594", "iso_8859-4",
      "iso_8859-4:1988", "l4", "latin4"], latin4),
   (["csisolatincyrillic", "cyrillic", "iso-8859-5", "iso-ir-144", "iso8859-5", "iso88595",
      "iso_8859-5", "iso_8859-5:1988"], isoCyrillic),
   (["arabic", "asmo-708", "csiso88596e", "csiso88596i", "csisolatinarabic", "ecma-114",
      "iso-8859-6", "iso-8859-6-e", "iso-8859-6-i", "iso-ir-127", "iso8859-6", "iso88596",
      "iso_8859-6", "iso_8859-6:1987"], isoArabic),
   (["csisolatingreek", "ecma-118", "elot_928", "greek", "greek8", "iso-8859-7", "iso-ir-126",
      "iso8859-7", "iso88597", "iso_8859-7", "iso_8859-7:1987", "sun_eu_greek"], isoGreek),
   (["csiso88598e", "csisolatinhebrew", "hebrew", "iso-8859-8", "iso-8859-8-e", "iso-ir-138",
      "iso8859-8", "iso88598", "iso_8859-8", "iso_8859-8:1988", "visual", "csiso88598i",
      "iso-8859-8-i", "logical"], isoHebrew),
   (["csisolatin6", "iso-8859-10", "iso-ir-157", "iso8859-10", "iso885910", "l6",
      "latin6"], latin6),
   (["iso-8859-13", "iso8859-13", "iso885913"], latin7),
   (["iso-8859-14", "iso8859-14", "iso885914"], latin8),
   (["csisolatin9", "iso-8859-15", "iso8859-15", "iso885915", "iso_8859-15", "l9"], latin9),
   (["iso-8859-16"], latin10),
   (["cskoi8r", "koi", "koi8", "koi8-r", "koi8_r"], koi8R),
   (["koi8-ru", "koi8-u"], koi8U),
   (["csmacintosh", "mac", "macintosh", "x-mac-roman"], macintosh),
   (["dos-874", "iso-8859-11", "iso8859-11", "iso885911", "tis-620", "windows-874"], windows874),
   (["cp1250", "windows-1250", "x-cp1250"], windows1250),
   (["cp1251", "windows-1251", "x-cp1251"], windows1251),
   (["ansi_x3.4-1968", "ascii", "cp1252", "cp819", "csisolatin1", "ibm819", "iso-8859-1",
      "iso-ir-100", "iso8859-1", "iso88591", "iso_8859-1", "iso_8859-1:1987", "l1", "latin1",
      "us-ascii", "windows-1252", "x-cp1252"], windows1252),
   (["cp1253", "windows-1253", "x-cp1253"], windows1253),
   (["cp1254", "csisolatin5", "iso-8859-9", "iso-ir-148", "iso8859-9", "iso88599", "iso_8859-9",
      "iso_8859-9:1989", "l5", "latin5", "windows-1254", "x-cp1254"], windows1254),
   (["cp1256", "windows-1256", "x-cp1256"], windows1256),
   (["cp1257", "windows-1257", "x-cp1257"], windows1257),
   (["cp1258", "windows-1258", "x-cp1258"], windows1258),
   (["cp1255", "windows-1255", "x-cp1255"], windows1255),
   (["x-mac-cyrillic", "x-mac-ukrainian"], macCyrillic)]

/-- The set with a name in lower case. -/
def ofLabel? (label : String) : Option Codepage :=
  (labels.find? fun (names, _) => names.contains label).map Prod.snd

end Codepage
end PaperSearch.Text
