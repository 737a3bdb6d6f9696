import HostWatch.Text.CodeRange
set_option autoImplicit false

/-!
# Domain names: plain forms

The form of each character in a domain name (Unicode 17, the IDNA mapping table): letters
are small, wide and styled forms become plain ones, some characters vanish, and some may
not stand in a name at all.
-/

namespace HostWatch.DomainName

open HostWatch.Text

set_option maxRecDepth 100000 in
/-- The runs of characters whose plain form is one other character. -/
def plainRuns : List CodeRun := [
  ⟨65, 90, 1, 32⟩, ⟨160, 160, 1, -128⟩, ⟨170, 170, 1, -73⟩, ⟨178, 179, 1, -128⟩,
  ⟨181, 181, 1, 775⟩, ⟨185, 185, 1, -136⟩, ⟨186, 186, 1, -75⟩, ⟨192, 214, 1, 32⟩,
  ⟨216, 222, 1, 32⟩, ⟨256, 302, 2, 1⟩, ⟨308, 310, 2, 1⟩, ⟨313, 317, 2, 1⟩, ⟨321, 327, 2, 1⟩,
  ⟨330, 374, 2, 1⟩, ⟨376, 376, 1, -121⟩, ⟨377, 381, 2, 1⟩, ⟨383, 383, 1, -268⟩,
  ⟨385, 385, 1, 210⟩, ⟨386, 388, 2, 1⟩, ⟨390, 390, 1, 206⟩, ⟨391, 391, 1, 1⟩, ⟨393, 394, 1, 205⟩,
  ⟨395, 395, 1, 1⟩, ⟨398, 398, 1, 79⟩, ⟨399, 399, 1, 202⟩, ⟨400, 400, 1, 203⟩, ⟨401, 401, 1, 1⟩,
  ⟨403, 403, 1, 205⟩, ⟨404, 404, 1, 207⟩, ⟨406, 406, 1, 211⟩, ⟨407, 407, 1, 209⟩,
  ⟨408, 408, 1, 1⟩, ⟨412, 412, 1, 211⟩, ⟨413, 413, 1, 213⟩, ⟨415, 415, 1, 214⟩, ⟨416, 420, 2, 1⟩,
  ⟨422, 422, 1, 218⟩, ⟨423, 423, 1, 1⟩, ⟨425, 425, 1, 218⟩, ⟨428, 428, 1, 1⟩, ⟨430, 430, 1, 218⟩,
  ⟨431, 431, 1, 1⟩, ⟨433, 434, 1, 217⟩, ⟨435, 437, 2, 1⟩, ⟨439, 439, 1, 219⟩, ⟨440, 440, 1, 1⟩,
  ⟨444, 444, 1, 1⟩, ⟨461, 475, 2, 1⟩, ⟨478, 494, 2, 1⟩, ⟨500, 500, 1, 1⟩, ⟨502, 502, 1, -97⟩,
  ⟨503, 503, 1, -56⟩, ⟨504, 542, 2, 1⟩, ⟨544, 544, 1, -130⟩, ⟨546, 562, 2, 1⟩,
  ⟨570, 570, 1, 10795⟩, ⟨571, 571, 1, 1⟩, ⟨573, 573, 1, -163⟩, ⟨574, 574, 1, 10792⟩,
  ⟨577, 577, 1, 1⟩, ⟨579, 579, 1, -195⟩, ⟨580, 580, 1, 69⟩, ⟨581, 581, 1, 71⟩, ⟨582, 590, 2, 1⟩,
  ⟨688, 688, 1, -584⟩, ⟨689, 689, 1, -75⟩, ⟨690, 690, 1, -584⟩, ⟨691, 691, 1, -577⟩,
  ⟨692, 692, 1, -59⟩, ⟨693, 693, 1, -58⟩, ⟨694, 694, 1, -53⟩, ⟨695, 695, 1, -576⟩,
  ⟨696, 696, 1, -575⟩, ⟨736, 736, 1, -125⟩, ⟨737, 737, 1, -629⟩, ⟨738, 738, 1, -623⟩,
  ⟨739, 739, 1, -619⟩, ⟨740, 740, 1, -79⟩, ⟨832, 833, 1, -64⟩, ⟨835, 835, 1, -48⟩,
  ⟨837, 837, 1, 116⟩, ⟨880, 882, 2, 1⟩, ⟨884, 884, 1, -187⟩, ⟨886, 886, 1, 1⟩,
  ⟨894, 894, 1, -835⟩, ⟨895, 895, 1, 116⟩, ⟨902, 902, 1, 38⟩, ⟨903, 903, 1, -720⟩,
  ⟨904, 906, 1, 37⟩, ⟨908, 908, 1, 64⟩, ⟨910, 911, 1, 63⟩, ⟨913, 929, 1, 32⟩, ⟨931, 939, 1, 32⟩,
  ⟨975, 975, 1, 8⟩, ⟨976, 976, 1, -30⟩, ⟨977, 977, 1, -25⟩, ⟨978, 978, 1, -13⟩, ⟨979, 979, 1, -6⟩,
  ⟨980, 980, 1, -9⟩, ⟨981, 981, 1, -15⟩, ⟨982, 982, 1, -22⟩, ⟨984, 1006, 2, 1⟩,
  ⟨1008, 1008, 1, -54⟩, ⟨1009, 1009, 1, -48⟩, ⟨1010, 1010, 1, -47⟩, ⟨1012, 1012, 1, -60⟩,
  ⟨1013, 1013, 1, -64⟩, ⟨1015, 1015, 1, 1⟩, ⟨1017, 1017, 1, -54⟩, ⟨1018, 1018, 1, 1⟩,
  ⟨1021, 1023, 1, -130⟩, ⟨1024, 1039, 1, 80⟩, ⟨1040, 1071, 1, 32⟩, ⟨1120, 1152, 2, 1⟩,
  ⟨1162, 1214, 2, 1⟩, ⟨1216, 1216, 1, 15⟩, ⟨1217, 1229, 2, 1⟩, ⟨1232, 1326, 2, 1⟩,
  ⟨1329, 1366, 1, 48⟩, ⟨3852, 3852, 1, -1⟩, ⟨4256, 4293, 1, 7264⟩, ⟨4295, 4295, 1, 7264⟩,
  ⟨4301, 4301, 1, 7264⟩, ⟨4348, 4348, 1, -32⟩, ⟨5112, 5117, 1, -8⟩, ⟨7296, 7296, 1, -6222⟩,
  ⟨7297, 7297, 1, -6221⟩, ⟨7298, 7298, 1, -6212⟩, ⟨7299, 7300, 1, -6210⟩, ⟨7301, 7301, 1, -6211⟩,
  ⟨7302, 7302, 1, -6204⟩, ⟨7303, 7303, 1, -6180⟩, ⟨7304, 7304, 1, 35267⟩, ⟨7305, 7305, 1, 1⟩,
  ⟨7312, 7354, 1, -3008⟩, ⟨7357, 7359, 1, -3008⟩, ⟨7468, 7468, 1, -7371⟩, ⟨7469, 7469, 1, -7239⟩,
  ⟨7470, 7472, 2, -7372⟩, ⟨7473, 7473, 1, -7372⟩, ⟨7474, 7474, 1, -6997⟩, ⟨7475, 7482, 1, -7372⟩,
  ⟨7484, 7484, 1, -7373⟩, ⟨7485, 7485, 1, -6938⟩, ⟨7486, 7486, 1, -7374⟩, ⟨7487, 7487, 1, -7373⟩,
  ⟨7488, 7489, 1, -7372⟩, ⟨7490, 7490, 1, -7371⟩, ⟨7491, 7491, 1, -7394⟩, ⟨7492, 7493, 1, -6900⟩,
  ⟨7494, 7494, 1, -68⟩, ⟨7495, 7495, 1, -7397⟩, ⟨7496, 7497, 1, -7396⟩, ⟨7498, 7498, 1, -6897⟩,
  ⟨7499, 7500, 1, -6896⟩, ⟨7501, 7501, 1, -7398⟩, ⟨7503, 7503, 1, -7396⟩, ⟨7504, 7504, 1, -7395⟩,
  ⟨7505, 7505, 1, -7174⟩, ⟨7506, 7506, 1, -7395⟩, ⟨7507, 7507, 1, -6911⟩, ⟨7508, 7509, 1, -62⟩,
  ⟨7510, 7510, 1, -7398⟩, ⟨7511, 7512, 1, -7395⟩, ⟨7513, 7513, 1, -60⟩, ⟨7514, 7514, 1, -6891⟩,
  ⟨7515, 7515, 1, -7397⟩, ⟨7516, 7516, 1, -55⟩, ⟨7517, 7519, 1, -6571⟩, ⟨7520, 7521, 1, -6554⟩,
  ⟨7522, 7522, 1, -7417⟩, ⟨7523, 7523, 1, -7409⟩, ⟨7524, 7525, 1, -7407⟩, ⟨7526, 7527, 1, -6580⟩,
  ⟨7528, 7528, 1, -6567⟩, ⟨7529, 7530, 1, -6563⟩, ⟨7544, 7544, 1, -6459⟩, ⟨7579, 7579, 1, -6985⟩,
  ⟨7580, 7580, 1, -7481⟩, ⟨7581, 7581, 1, -6984⟩, ⟨7582, 7582, 1, -7342⟩, ⟨7583, 7583, 1, -6979⟩,
  ⟨7584, 7584, 1, -7482⟩, ⟨7585, 7585, 1, -6978⟩, ⟨7586, 7586, 1, -6977⟩, ⟨7587, 7587, 1, -6974⟩,
  ⟨7588, 7590, 1, -6972⟩, ⟨7591, 7591, 1, -44⟩, ⟨7592, 7592, 1, -6923⟩, ⟨7593, 7593, 1, -6972⟩,
  ⟨7594, 7594, 1, -37⟩, ⟨7595, 7595, 1, -6924⟩, ⟨7596, 7596, 1, -6971⟩, ⟨7597, 7597, 1, -6973⟩,
  ⟨7598, 7601, 1, -6972⟩, ⟨7602, 7602, 1, -6970⟩, ⟨7603, 7604, 1, -6961⟩, ⟨7605, 7605, 1, -7178⟩,
  ⟨7606, 7607, 1, -6957⟩, ⟨7608, 7608, 1, -156⟩, ⟨7609, 7610, 1, -6958⟩, ⟨7611, 7611, 1, -7489⟩,
  ⟨7612, 7614, 1, -6956⟩, ⟨7615, 7615, 1, -6663⟩, ⟨7680, 7828, 2, 1⟩, ⟨7835, 7835, 1, -58⟩,
  ⟨7838, 7838, 1, -7615⟩, ⟨7840, 7934, 2, 1⟩, ⟨7944, 7951, 1, -8⟩, ⟨7960, 7965, 1, -8⟩,
  ⟨7976, 7983, 1, -8⟩, ⟨7992, 7999, 1, -8⟩, ⟨8008, 8013, 1, -8⟩, ⟨8025, 8031, 2, -8⟩,
  ⟨8040, 8047, 1, -8⟩, ⟨8049, 8049, 1, -7109⟩, ⟨8051, 8051, 1, -7110⟩, ⟨8053, 8053, 1, -7111⟩,
  ⟨8055, 8055, 1, -7112⟩, ⟨8057, 8057, 1, -7085⟩, ⟨8059, 8059, 1, -7086⟩, ⟨8061, 8061, 1, -7087⟩,
  ⟨8120, 8121, 1, -8⟩, ⟨8122, 8122, 1, -74⟩, ⟨8123, 8123, 1, -7183⟩, ⟨8126, 8126, 1, -7173⟩,
  ⟨8136, 8136, 1, -86⟩, ⟨8137, 8137, 1, -7196⟩, ⟨8138, 8138, 1, -86⟩, ⟨8139, 8139, 1, -7197⟩,
  ⟨8147, 8147, 1, -7235⟩, ⟨8152, 8153, 1, -8⟩, ⟨8154, 8154, 1, -100⟩, ⟨8155, 8155, 1, -7212⟩,
  ⟨8163, 8163, 1, -7219⟩, ⟨8168, 8169, 1, -8⟩, ⟨8170, 8170, 1, -112⟩, ⟨8171, 8171, 1, -7198⟩,
  ⟨8172, 8172, 1, -7⟩, ⟨8175, 8175, 1, -8079⟩, ⟨8184, 8184, 1, -128⟩, ⟨8185, 8185, 1, -7213⟩,
  ⟨8186, 8186, 1, -126⟩, ⟨8187, 8187, 1, -7213⟩, ⟨8192, 8192, 1, -8160⟩, ⟨8193, 8193, 1, -8161⟩,
  ⟨8194, 8194, 1, -8162⟩, ⟨8195, 8195, 1, -8163⟩, ⟨8196, 8196, 1, -8164⟩, ⟨8197, 8197, 1, -8165⟩,
  ⟨8198, 8198, 1, -8166⟩, ⟨8199, 8199, 1, -8167⟩, ⟨8200, 8200, 1, -8168⟩, ⟨8201, 8201, 1, -8169⟩,
  ⟨8202, 8202, 1, -8170⟩, ⟨8209, 8209, 1, -1⟩, ⟨8239, 8239, 1, -8207⟩, ⟨8287, 8287, 1, -8255⟩,
  ⟨8304, 8304, 1, -8256⟩, ⟨8305, 8305, 1, -8200⟩, ⟨8308, 8313, 1, -8256⟩, ⟨8314, 8314, 1, -8271⟩,
  ⟨8315, 8315, 1, 407⟩, ⟨8316, 8316, 1, -8255⟩, ⟨8317, 8318, 1, -8277⟩, ⟨8319, 8319, 1, -8209⟩,
  ⟨8320, 8329, 1, -8272⟩, ⟨8330, 8330, 1, -8287⟩, ⟨8331, 8331, 1, 391⟩, ⟨8332, 8332, 1, -8271⟩,
  ⟨8333, 8334, 1, -8293⟩, ⟨8336, 8336, 1, -8239⟩, ⟨8337, 8337, 1, -8236⟩, ⟨8338, 8338, 1, -8227⟩,
  ⟨8339, 8339, 1, -8219⟩, ⟨8340, 8340, 1, -7739⟩, ⟨8341, 8341, 1, -8237⟩, ⟨8342, 8345, 1, -8235⟩,
  ⟨8346, 8346, 1, -8234⟩, ⟨8347, 8348, 1, -8232⟩, ⟨8450, 8450, 1, -8351⟩, ⟨8455, 8455, 1, -7852⟩,
  ⟨8458, 8459, 1, -8355⟩, ⟨8460, 8460, 1, -8356⟩, ⟨8461, 8461, 1, -8357⟩, ⟨8462, 8462, 1, -8358⟩,
  ⟨8463, 8463, 1, -8168⟩, ⟨8464, 8464, 1, -8359⟩, ⟨8465, 8465, 1, -8360⟩, ⟨8466, 8466, 1, -8358⟩,
  ⟨8467, 8469, 2, -8359⟩, ⟨8473, 8475, 1, -8361⟩, ⟨8476, 8476, 1, -8362⟩, ⟨8477, 8477, 1, -8363⟩,
  ⟨8484, 8484, 1, -8362⟩, ⟨8486, 8486, 1, -7517⟩, ⟨8488, 8488, 1, -8366⟩, ⟨8490, 8490, 1, -8383⟩,
  ⟨8491, 8491, 1, -8262⟩, ⟨8492, 8493, 1, -8394⟩, ⟨8495, 8495, 1, -8394⟩, ⟨8496, 8497, 1, -8395⟩,
  ⟨8498, 8498, 1, 28⟩, ⟨8499, 8499, 1, -8390⟩, ⟨8500, 8500, 1, -8389⟩, ⟨8501, 8504, 1, -7013⟩,
  ⟨8505, 8505, 1, -8400⟩, ⟨8508, 8508, 1, -7548⟩, ⟨8509, 8509, 1, -7562⟩, ⟨8510, 8510, 1, -7563⟩,
  ⟨8511, 8511, 1, -7551⟩, ⟨8512, 8512, 1, 209⟩, ⟨8517, 8517, 1, -8417⟩, ⟨8518, 8519, 1, -8418⟩,
  ⟨8520, 8521, 1, -8415⟩, ⟨8544, 8544, 1, -8439⟩, ⟨8548, 8548, 1, -8430⟩, ⟨8553, 8553, 1, -8433⟩,
  ⟨8556, 8556, 1, -8448⟩, ⟨8557, 8558, 1, -8458⟩, ⟨8559, 8559, 1, -8450⟩, ⟨8560, 8560, 1, -8455⟩,
  ⟨8564, 8564, 1, -8446⟩, ⟨8569, 8569, 1, -8449⟩, ⟨8572, 8572, 1, -8464⟩, ⟨8573, 8574, 1, -8474⟩,
  ⟨8575, 8575, 1, -8466⟩, ⟨8579, 8579, 1, 1⟩, ⟨9001, 9002, 1, 3295⟩, ⟨9312, 9320, 1, -9263⟩,
  ⟨9398, 9423, 1, -9301⟩, ⟨9424, 9449, 1, -9327⟩, ⟨9450, 9450, 1, -9402⟩, ⟨11264, 11311, 1, 48⟩,
  ⟨11360, 11360, 1, 1⟩, ⟨11362, 11362, 1, -10743⟩, ⟨11363, 11363, 1, -3814⟩,
  ⟨11364, 11364, 1, -10727⟩, ⟨11367, 11371, 2, 1⟩, ⟨11373, 11373, 1, -10780⟩,
  ⟨11374, 11374, 1, -10749⟩, ⟨11375, 11375, 1, -10783⟩, ⟨11376, 11376, 1, -10782⟩,
  ⟨11378, 11378, 1, 1⟩, ⟨11381, 11381, 1, 1⟩, ⟨11388, 11388, 1, -11282⟩,
  ⟨11389, 11389, 1, -11271⟩, ⟨11390, 11391, 1, -10815⟩, ⟨11392, 11490, 2, 1⟩,
  ⟨11499, 11501, 2, 1⟩, ⟨11506, 11506, 1, 1⟩, ⟨11631, 11631, 1, -14⟩, ⟨11935, 11935, 1, 15662⟩,
  ⟨12019, 12019, 1, 28844⟩, ⟨12032, 12032, 1, 7936⟩, ⟨12033, 12033, 1, 7975⟩,
  ⟨12034, 12034, 1, 7988⟩, ⟨12035, 12035, 1, 7996⟩, ⟨12036, 12036, 1, 8021⟩,
  ⟨12037, 12037, 1, 8064⟩, ⟨12038, 12038, 1, 8070⟩, ⟨12039, 12039, 1, 8089⟩,
  ⟨12040, 12040, 1, 8114⟩, ⟨12041, 12041, 1, 8758⟩, ⟨12042, 12042, 1, 8795⟩,
  ⟨12043, 12043, 1, 8800⟩, ⟨12044, 12044, 1, 8822⟩, ⟨12045, 12045, 1, 8841⟩,
  ⟨12046, 12046, 1, 8861⟩, ⟨12047, 12047, 1, 8913⟩, ⟨12048, 12048, 1, 8933⟩,
  ⟨12049, 12049, 1, 8943⟩, ⟨12050, 12050, 1, 9097⟩, ⟨12051, 12051, 1, 9190⟩,
  ⟨12052, 12052, 1, 9217⟩, ⟨12053, 12053, 1, 9221⟩, ⟨12054, 12054, 1, 9250⟩,
  ⟨12055, 12055, 1, 9258⟩, ⟨12056, 12056, 1, 9284⟩, ⟨12057, 12057, 1, 9296⟩,
  ⟨12058, 12058, 1, 9320⟩, ⟨12059, 12059, 1, 9371⟩, ⟨12060, 12060, 1, 9388⟩,
  ⟨12061, 12061, 1, 9414⟩, ⟨12062, 12062, 1, 10169⟩, ⟨12063, 12063, 1, 10240⟩,
  ⟨12064, 12064, 1, 10699⟩, ⟨12065, 12065, 1, 10721⟩, ⟨12066, 12066, 1, 10728⟩,
  ⟨12067, 12067, 1, 10738⟩, ⟨12068, 12068, 1, 10755⟩, ⟨12069, 12069, 1, 10830⟩,
  ⟨12070, 12070, 1, 11306⟩, ⟨12071, 12071, 1, 11353⟩, ⟨12072, 12072, 1, 11472⟩,
  ⟨12073, 12073, 1, 11494⟩, ⟨12074, 12074, 1, 11512⟩, ⟨12075, 12075, 1, 11533⟩,
  ⟨12076, 12076, 1, 11586⟩, ⟨12077, 12077, 1, 11588⟩, ⟨12078, 12078, 1, 11949⟩,
  ⟨12079, 12079, 1, 11958⟩, ⟨12080, 12080, 1, 11969⟩, ⟨12081, 12081, 1, 11981⟩,
  ⟨12082, 12082, 1, 12096⟩, ⟨12083, 12083, 1, 12103⟩, ⟨12084, 12084, 1, 12107⟩,
  ⟨12085, 12085, 1, 12223⟩, ⟨12086, 12086, 1, 12232⟩, ⟨12087, 12087, 1, 12244⟩,
  ⟨12088, 12088, 1, 12251⟩, ⟨12089, 12089, 1, 12311⟩, ⟨12090, 12090, 1, 12327⟩,
  ⟨12091, 12091, 1, 12344⟩, ⟨12092, 12092, 1, 12423⟩, ⟨12093, 12093, 1, 13003⟩,
  ⟨12094, 12094, 1, 13048⟩, ⟨12095, 12095, 1, 13068⟩, ⟨12096, 12096, 1, 13807⟩,
  ⟨12097, 12097, 1, 13811⟩, ⟨12098, 12098, 1, 13893⟩, ⟨12099, 12099, 1, 13908⟩,
  ⟨12100, 12100, 1, 13920⟩, ⟨12101, 12101, 1, 13940⟩, ⟨12102, 12102, 1, 13978⟩,
  ⟨12103, 12103, 1, 13982⟩, ⟨12104, 12104, 1, 14248⟩, ⟨12105, 12105, 1, 14271⟩,
  ⟨12106, 12106, 1, 14302⟩, ⟨12107, 12107, 1, 15317⟩, ⟨12108, 12108, 1, 15382⟩,
  ⟨12109, 12109, 1, 15404⟩, ⟨12110, 12110, 1, 15461⟩, ⟨12111, 12111, 1, 15484⟩,
  ⟨12112, 12112, 1, 15492⟩, ⟨12113, 12113, 1, 15498⟩, ⟨12114, 12114, 1, 15549⟩,
  ⟨12115, 12115, 1, 15553⟩, ⟨12116, 12116, 1, 15584⟩, ⟨12117, 12117, 1, 16662⟩,
  ⟨12118, 12118, 1, 17108⟩, ⟨12119, 12119, 1, 17119⟩, ⟨12120, 12120, 1, 17123⟩,
  ⟨12121, 12121, 1, 17126⟩, ⟨12122, 12122, 1, 17133⟩, ⟨12123, 12123, 1, 17150⟩,
  ⟨12124, 12124, 1, 17151⟩, ⟨12125, 12125, 1, 17231⟩, ⟨12126, 12126, 1, 17446⟩,
  ⟨12127, 12127, 1, 17450⟩, ⟨12128, 12128, 1, 17788⟩, ⟨12129, 12129, 1, 17797⟩,
  ⟨12130, 12130, 1, 17846⟩, ⟨12131, 12131, 1, 17852⟩, ⟨12132, 12132, 1, 17860⟩,
  ⟨12133, 12133, 1, 17867⟩, ⟨12134, 12134, 1, 17957⟩, ⟨12135, 12135, 1, 17963⟩,
  ⟨12136, 12136, 1, 18190⟩, ⟨12137, 12137, 1, 18196⟩, ⟨12138, 12138, 1, 18244⟩,
  ⟨12139, 12139, 1, 18260⟩, ⟨12140, 12140, 1, 18306⟩, ⟨12141, 12141, 1, 18542⟩,
  ⟨12142, 12142, 1, 18548⟩, ⟨12143, 12143, 1, 18564⟩, ⟨12144, 12144, 1, 18890⟩,
  ⟨12145, 12145, 1, 19015⟩, ⟨12146, 12146, 1, 19020⟩, ⟨12147, 12147, 1, 19201⟩,
  ⟨12148, 12148, 1, 19287⟩, ⟨12149, 12149, 1, 19332⟩, ⟨12150, 12150, 1, 19709⟩,
  ⟨12151, 12151, 1, 19841⟩, ⟨12152, 12152, 1, 20414⟩, ⟨12153, 12153, 1, 20440⟩,
  ⟨12154, 12154, 1, 20496⟩, ⟨12155, 12155, 1, 20546⟩, ⟨12156, 12156, 1, 20613⟩,
  ⟨12157, 12157, 1, 20623⟩, ⟨12158, 12158, 1, 20628⟩, ⟨12159, 12159, 1, 20660⟩,
  ⟨12160, 12160, 1, 20735⟩, ⟨12161, 12161, 1, 20744⟩, ⟨12162, 12162, 1, 21089⟩,
  ⟨12163, 12163, 1, 21095⟩, ⟨12164, 12164, 1, 21103⟩, ⟨12165, 12165, 1, 21111⟩,
  ⟨12166, 12166, 1, 21126⟩, ⟨12167, 12167, 1, 21140⟩, ⟨12168, 12168, 1, 21143⟩,
  ⟨12169, 12169, 1, 21221⟩, ⟨12170, 12170, 1, 21224⟩, ⟨12171, 12171, 1, 21229⟩,
  ⟨12172, 12172, 1, 22209⟩, ⟨12173, 12173, 1, 22238⟩, ⟨12174, 12174, 1, 22706⟩,
  ⟨12175, 12175, 1, 22717⟩, ⟨12176, 12176, 1, 22739⟩, ⟨12177, 12177, 1, 23021⟩,
  ⟨12178, 12178, 1, 23033⟩, ⟨12179, 12179, 1, 23103⟩, ⟨12180, 12180, 1, 23148⟩,
  ⟨12181, 12181, 1, 23714⟩, ⟨12182, 12182, 1, 23728⟩, ⟨12183, 12183, 1, 23742⟩,
  ⟨12184, 12184, 1, 23776⟩, ⟨12185, 12185, 1, 23812⟩, ⟨12186, 12186, 1, 24010⟩,
  ⟨12187, 12187, 1, 24021⟩, ⟨12188, 12188, 1, 24087⟩, ⟨12189, 12189, 1, 24334⟩,
  ⟨12190, 12190, 1, 24364⟩, ⟨12191, 12191, 1, 24572⟩, ⟨12192, 12192, 1, 24592⟩,
  ⟨12193, 12193, 1, 24596⟩, ⟨12194, 12194, 1, 24815⟩, ⟨12195, 12195, 1, 24998⟩,
  ⟨12196, 12196, 1, 25122⟩, ⟨12197, 12197, 1, 25127⟩, ⟨12198, 12198, 1, 25131⟩,
  ⟨12199, 12199, 1, 26064⟩, ⟨12200, 12200, 1, 26072⟩, ⟨12201, 12201, 1, 26227⟩,
  ⟨12202, 12202, 1, 26380⟩, ⟨12203, 12203, 1, 26382⟩, ⟨12204, 12204, 1, 26428⟩,
  ⟨12205, 12205, 1, 26532⟩, ⟨12206, 12206, 1, 26544⟩, ⟨12207, 12207, 1, 26547⟩,
  ⟨12208, 12208, 1, 26553⟩, ⟨12209, 12209, 1, 26650⟩, ⟨12210, 12210, 1, 26683⟩,
  ⟨12211, 12211, 1, 26688⟩, ⟨12212, 12212, 1, 26701⟩, ⟨12213, 12213, 1, 26867⟩,
  ⟨12214, 12214, 1, 26917⟩, ⟨12215, 12215, 1, 26920⟩, ⟨12216, 12216, 1, 27102⟩,
  ⟨12217, 12217, 1, 27104⟩, ⟨12218, 12218, 1, 27122⟩, ⟨12219, 12219, 1, 27373⟩,
  ⟨12220, 12220, 1, 27420⟩, ⟨12221, 12221, 1, 27426⟩, ⟨12222, 12222, 1, 27495⟩,
  ⟨12223, 12223, 1, 27504⟩, ⟨12224, 12224, 1, 27506⟩, ⟨12225, 12225, 1, 27515⟩,
  ⟨12226, 12226, 1, 27544⟩, ⟨12227, 12227, 1, 27938⟩, ⟨12228, 12228, 1, 28337⟩,
  ⟨12229, 12229, 1, 28346⟩, ⟨12230, 12230, 1, 28383⟩, ⟨12231, 12231, 1, 28404⟩,
  ⟨12232, 12232, 1, 28411⟩, ⟨12233, 12233, 1, 28420⟩, ⟨12234, 12234, 1, 28423⟩,
  ⟨12235, 12235, 1, 28462⟩, ⟨12236, 12236, 1, 28465⟩, ⟨12237, 12237, 1, 28481⟩,
  ⟨12238, 12238, 1, 28485⟩, ⟨12239, 12239, 1, 28497⟩, ⟨12240, 12240, 1, 28523⟩,
  ⟨12241, 12241, 1, 28537⟩, ⟨12242, 12242, 1, 28544⟩, ⟨12243, 12243, 1, 28602⟩,
  ⟨12244, 12244, 1, 28616⟩, ⟨12245, 12245, 1, 28619⟩, ⟨12288, 12288, 1, -12256⟩,
  ⟨12290, 12290, 1, -12244⟩, ⟨12342, 12342, 1, -36⟩, ⟨12344, 12344, 1, 8969⟩,
  ⟨12345, 12346, 1, 8971⟩, ⟨12593, 12594, 1, -8241⟩, ⟨12595, 12595, 1, -8073⟩,
  ⟨12596, 12596, 1, -8242⟩, ⟨12597, 12598, 1, -8073⟩, ⟨12599, 12601, 1, -8244⟩,
  ⟨12602, 12607, 1, -8074⟩, ⟨12608, 12608, 1, -8230⟩, ⟨12609, 12611, 1, -8251⟩,
  ⟨12612, 12612, 1, -8227⟩, ⟨12613, 12622, 1, -8252⟩, ⟨12623, 12643, 1, -8174⟩,
  ⟨12645, 12646, 1, -8273⟩, ⟨12647, 12648, 1, -8096⟩, ⟨12649, 12649, 1, -8093⟩,
  ⟨12650, 12650, 1, -8092⟩, ⟨12651, 12651, 1, -8088⟩, ⟨12652, 12652, 1, -8085⟩,
  ⟨12653, 12653, 1, -8084⟩, ⟨12654, 12654, 1, -8274⟩, ⟨12655, 12655, 1, -8082⟩,
  ⟨12656, 12656, 1, -8081⟩, ⟨12657, 12658, 1, -8276⟩, ⟨12659, 12659, 1, -8275⟩,
  ⟨12660, 12661, 1, -8274⟩, ⟨12662, 12662, 1, -8271⟩, ⟨12663, 12663, 1, -8270⟩,
  ⟨12664, 12668, 1, -8269⟩, ⟨12669, 12669, 1, -8267⟩, ⟨12670, 12670, 1, -8264⟩,
  ⟨12671, 12671, 1, -8255⟩, ⟨12672, 12672, 1, -8249⟩, ⟨12673, 12673, 1, -8245⟩,
  ⟨12674, 12675, 1, -8081⟩, ⟨12676, 12678, 1, -8237⟩, ⟨12679, 12680, 1, -8195⟩,
  ⟨12681, 12681, 1, -8193⟩, ⟨12682, 12683, 1, -8185⟩, ⟨12684, 12684, 1, -8184⟩,
  ⟨12685, 12685, 1, -8175⟩, ⟨12686, 12686, 1, -8173⟩, ⟨12690, 12690, 1, 7278⟩,
  ⟨12691, 12691, 1, 7417⟩, ⟨12692, 12692, 1, 7285⟩, ⟨12693, 12693, 1, 9542⟩,
  ⟨12694, 12694, 1, 7284⟩, ⟨12695, 12695, 1, 7318⟩, ⟨12696, 12696, 1, 7283⟩,
  ⟨12697, 12697, 1, 17305⟩, ⟨12698, 12698, 1, 7359⟩, ⟨12699, 12699, 1, 7294⟩,
  ⟨12700, 12700, 1, 7269⟩, ⟨12701, 12701, 1, 10124⟩, ⟨12702, 12702, 1, 9618⟩,
  ⟨12703, 12703, 1, 7451⟩, ⟨12868, 12868, 1, 8971⟩, ⟨12869, 12869, 1, 11319⟩,
  ⟨12870, 12870, 1, 13121⟩, ⟨12871, 12871, 1, 18760⟩, ⟨12896, 12896, 1, -8544⟩,
  ⟨12897, 12898, 1, -8543⟩, ⟨12899, 12901, 1, -8542⟩, ⟨12902, 12902, 1, -8541⟩,
  ⟨12903, 12904, 1, -8540⟩, ⟨12905, 12909, 1, -8539⟩, ⟨12910, 12910, 1, 31122⟩,
  ⟨12911, 12911, 1, 32297⟩, ⟨12912, 12912, 1, 32884⟩, ⟨12913, 12913, 1, 34059⟩,
  ⟨12914, 12914, 1, 34646⟩, ⟨12915, 12915, 1, 35233⟩, ⟨12916, 12916, 1, 36408⟩,
  ⟨12917, 12917, 1, 37583⟩, ⟨12918, 12918, 1, 38170⟩, ⟨12919, 12919, 1, 39345⟩,
  ⟨12920, 12920, 1, 39932⟩, ⟨12921, 12921, 1, 40519⟩, ⟨12922, 12922, 1, 41106⟩,
  ⟨12923, 12923, 1, 41693⟩, ⟨12926, 12926, 1, 37938⟩, ⟨12928, 12928, 1, 7040⟩,
  ⟨12929, 12929, 1, 7179⟩, ⟨12930, 12930, 1, 7047⟩, ⟨12931, 12931, 1, 9304⟩,
  ⟨12932, 12932, 1, 7184⟩, ⟨12933, 12933, 1, 7912⟩, ⟨12934, 12934, 1, 7037⟩,
  ⟨12935, 12935, 1, 7908⟩, ⟨12936, 12936, 1, 7125⟩, ⟨12937, 12937, 1, 8376⟩,
  ⟨12938, 12938, 1, 13438⟩, ⟨12939, 12939, 1, 15840⟩, ⟨12940, 12940, 1, 14760⟩,
  ⟨12941, 12941, 1, 13467⟩, ⟨12942, 12942, 1, 24387⟩, ⟨12943, 12943, 1, 9360⟩,
  ⟨12944, 12944, 1, 13141⟩, ⟨12945, 12945, 1, 13721⟩, ⟨12946, 12946, 1, 13431⟩,
  ⟨12947, 12947, 1, 18091⟩, ⟨12948, 12948, 1, 8569⟩, ⟨12949, 12949, 1, 16356⟩,
  ⟨12950, 12950, 1, 23051⟩, ⟨12951, 12951, 1, 18118⟩, ⟨12952, 12952, 1, 8220⟩,
  ⟨12953, 12953, 1, 18239⟩, ⟨12954, 12954, 1, 17053⟩, ⟨12955, 12955, 1, 9944⟩,
  ⟨12956, 12956, 1, 24013⟩, ⟨12957, 12957, 1, 7821⟩, ⟨12958, 12958, 1, 8402⟩,
  ⟨12959, 12959, 1, 14921⟩, ⟨12960, 12960, 1, 25957⟩, ⟨12961, 12961, 1, 7280⟩,
  ⟨12962, 12962, 1, 7927⟩, ⟨12963, 12963, 1, 14528⟩, ⟨12964, 12964, 1, 7014⟩,
  ⟨12965, 12965, 1, 7048⟩, ⟨12966, 12966, 1, 7013⟩, ⟨12967, 12967, 1, 11071⟩,
  ⟨12968, 12968, 1, 8523⟩, ⟨12969, 12969, 1, 8338⟩, ⟨12970, 12970, 1, 10477⟩,
  ⟨12971, 12971, 1, 10427⟩, ⟨12972, 12972, 1, 17463⟩, ⟨12973, 12973, 1, 7252⟩,
  ⟨12974, 12974, 1, 23065⟩, ⟨12975, 12975, 1, 8357⟩, ⟨12976, 12976, 1, 9836⟩,
  ⟨13008, 13008, 1, -558⟩, ⟨13009, 13009, 1, -557⟩, ⟨13010, 13010, 1, -556⟩,
  ⟨13011, 13011, 1, -555⟩, ⟨13012, 13013, 1, -554⟩, ⟨13014, 13014, 1, -553⟩,
  ⟨13015, 13015, 1, -552⟩, ⟨13016, 13016, 1, -551⟩, ⟨13017, 13017, 1, -550⟩,
  ⟨13018, 13018, 1, -549⟩, ⟨13019, 13019, 1, -548⟩, ⟨13020, 13020, 1, -547⟩,
  ⟨13021, 13021, 1, -546⟩, ⟨13022, 13022, 1, -545⟩, ⟨13023, 13023, 1, -544⟩,
  ⟨13024, 13024, 1, -543⟩, ⟨13025, 13025, 1, -541⟩, ⟨13026, 13026, 1, -540⟩,
  ⟨13027, 13027, 1, -539⟩, ⟨13028, 13033, 1, -538⟩, ⟨13034, 13034, 1, -536⟩,
  ⟨13035, 13035, 1, -534⟩, ⟨13036, 13036, 1, -532⟩, ⟨13037, 13037, 1, -530⟩,
  ⟨13038, 13042, 1, -528⟩, ⟨13043, 13043, 1, -527⟩, ⟨13044, 13044, 1, -526⟩,
  ⟨13045, 13050, 1, -525⟩, ⟨13051, 13054, 1, -524⟩, ⟨42560, 42604, 2, 1⟩, ⟨42624, 42650, 2, 1⟩,
  ⟨42652, 42652, 1, -41554⟩, ⟨42653, 42653, 1, -41553⟩, ⟨42786, 42798, 2, 1⟩,
  ⟨42802, 42862, 2, 1⟩, ⟨42864, 42864, 1, -1⟩, ⟨42873, 42875, 2, 1⟩, ⟨42877, 42877, 1, -35332⟩,
  ⟨42878, 42886, 2, 1⟩, ⟨42891, 42891, 1, 1⟩, ⟨42893, 42893, 1, -42280⟩, ⟨42896, 42898, 2, 1⟩,
  ⟨42902, 42920, 2, 1⟩, ⟨42922, 42922, 1, -42308⟩, ⟨42923, 42923, 1, -42319⟩,
  ⟨42924, 42924, 1, -42315⟩, ⟨42925, 42925, 1, -42305⟩, ⟨42926, 42926, 1, -42308⟩,
  ⟨42928, 42928, 1, -42258⟩, ⟨42929, 42929, 1, -42282⟩, ⟨42930, 42930, 1, -42261⟩,
  ⟨42931, 42931, 1, 928⟩, ⟨42932, 42946, 2, 1⟩, ⟨42948, 42948, 1, -48⟩, ⟨42949, 42949, 1, -42307⟩,
  ⟨42950, 42950, 1, -35384⟩, ⟨42951, 42953, 2, 1⟩, ⟨42955, 42955, 1, -42343⟩,
  ⟨42956, 42970, 2, 1⟩, ⟨42972, 42972, 1, -42561⟩, ⟨42993, 42993, 1, -42878⟩,
  ⟨42994, 42994, 1, -42895⟩, ⟨42995, 42995, 1, -42893⟩, ⟨42996, 42996, 1, -42883⟩,
  ⟨42997, 42997, 1, 1⟩, ⟨43000, 43000, 1, -42705⟩, ⟨43001, 43001, 1, -42662⟩,
  ⟨43868, 43868, 1, -1077⟩, ⟨43869, 43869, 1, -38⟩, ⟨43870, 43870, 1, -43251⟩,
  ⟨43871, 43871, 1, -13⟩, ⟨43881, 43881, 1, -43228⟩, ⟨43888, 43967, 1, -38864⟩,
  ⟨63744, 63744, 1, -27832⟩, ⟨63745, 63745, 1, -37389⟩, ⟨63746, 63746, 1, -27192⟩,
  ⟨63747, 63747, 1, -27707⟩, ⟨63748, 63748, 1, -35379⟩, ⟨63749, 63749, 1, -43731⟩,
  ⟨63750, 63750, 1, -42273⟩, ⟨63751, 63751, 1, -22891⟩, ⟨63752, 63752, 1, -22892⟩,
  ⟨63753, 63753, 1, -40888⟩, ⟨63754, 63754, 1, -26425⟩, ⟨63755, 63755, 1, -41860⟩,
  ⟨63756, 63756, 1, -40900⟩, ⟨63757, 63757, 1, -38679⟩, ⟨63758, 63758, 1, -33445⟩,
  ⟨63759, 63759, 1, -31114⟩, ⟨63760, 63760, 1, -29393⟩, ⟨63761, 63761, 1, -29015⟩,
  ⟨63762, 63762, 1, -28698⟩, ⟨63763, 63763, 1, -26756⟩, ⟨63764, 63764, 1, -36626⟩,
  ⟨63765, 63765, 1, -35834⟩, ⟨63766, 63766, 1, -34877⟩, ⟨63767, 63767, 1, -34105⟩,
  ⟨63768, 63768, 1, -29915⟩, ⟨63769, 63769, 1, -26543⟩, ⟨63770, 63770, 1, -24361⟩,
  ⟨63771, 63771, 1, -43673⟩, ⟨63772, 63772, 1, -42407⟩, ⟨63773, 63773, 1, -36377⟩,
  ⟨63774, 63774, 1, -34563⟩, ⟨63775, 63775, 1, -29426⟩, ⟨63776, 63776, 1, -23298⟩,
  ⟨63777, 63777, 1, -39889⟩, ⟨63778, 63778, 1, -35127⟩, ⟨63779, 63779, 1, -29526⟩,
  ⟨63780, 63780, 1, -28608⟩, ⟨63781, 63781, 1, -38492⟩, ⟨63782, 63782, 1, -30542⟩,
  ⟨63783, 63783, 1, -28936⟩, ⟨63784, 63784, 1, -39518⟩, ⟨63785, 63785, 1, -37394⟩,
  ⟨63786, 63786, 1, -35776⟩, ⟨63787, 63787, 1, -34351⟩, ⟨63788, 63788, 1, -26718⟩,
  ⟨63789, 63789, 1, -43431⟩, ⟨63790, 63790, 1, -42871⟩, ⟨63791, 63791, 1, -42577⟩,
  ⟨63792, 63792, 1, -37996⟩, ⟨63793, 63793, 1, -36446⟩, ⟨63794, 63794, 1, -34594⟩,
  ⟨63795, 63795, 1, -33356⟩, ⟨63796, 63796, 1, -31027⟩, ⟨63797, 63797, 1, -29487⟩,
  ⟨63798, 63798, 1, -29402⟩, ⟨63799, 63799, 1, -27464⟩, ⟨63800, 63800, 1, -25094⟩,
  ⟨63801, 63801, 1, -24010⟩, ⟨63802, 63802, 1, -23360⟩, ⟨63803, 63803, 1, -32943⟩,
  ⟨63804, 63804, 1, -32701⟩, ⟨63805, 63805, 1, -31645⟩, ⟨63806, 63806, 1, -30069⟩,
  ⟨63807, 63807, 1, -26171⟩, ⟨63808, 63808, 1, -23233⟩, ⟨63809, 63809, 1, -28267⟩,
  ⟨63810, 63810, 1, -41059⟩, ⟨63811, 63811, 1, -39487⟩, ⟨63812, 63812, 1, -31972⟩,
  ⟨63813, 63813, 1, -30919⟩, ⟨63814, 63814, 1, -34532⟩, ⟨63815, 63815, 1, -32893⟩,
  ⟨63816, 63816, 1, -27782⟩, ⟨63817, 63817, 1, -25170⟩, ⟨63818, 63818, 1, -41074⟩,
  ⟨63819, 63819, 1, -40169⟩, ⟨63820, 63820, 1, -36665⟩, ⟨63821, 63821, 1, -35699⟩,
  ⟨63822, 63822, 1, -35391⟩, ⟨63823, 63823, 1, -31776⟩, ⟨63824, 63824, 1, -31513⟩,
  ⟨63825, 63825, 1, -25350⟩, ⟨63826, 63826, 1, -42624⟩, ⟨63827, 63827, 1, -30920⟩,
  ⟨63828, 63828, 1, -42872⟩, ⟨63829, 63829, 1, -42889⟩, ⟨63830, 63830, 1, -32570⟩,
  ⟨63831, 63831, 1, -31641⟩, ⟨63832, 63832, 1, -30055⟩, ⟨63833, 63833, 1, -25316⟩,
  ⟨63834, 63834, 1, -28122⟩, ⟨63835, 63835, 1, -38540⟩, ⟨63836, 63836, 1, -36698⟩,
  ⟨63837, 63837, 1, -28255⟩, ⟨63838, 63838, 1, -43813⟩, ⟨63839, 63839, 1, -40312⟩,
  ⟨63840, 63840, 1, -39246⟩, ⟨63841, 63841, 1, -34266⟩, ⟨63842, 63842, 1, -33778⟩,
  ⟨63843, 63843, 1, -42572⟩, ⟨63844, 63844, 1, -32873⟩, ⟨63845, 63845, 1, -43430⟩,
  ⟨63846, 63846, 1, -39357⟩, ⟨63847, 63847, 1, -43866⟩, ⟨63848, 63848, 1, -35996⟩,
  ⟨63849, 63849, 1, -37873⟩, ⟨63850, 63850, 1, -31816⟩, ⟨63851, 63851, 1, -42408⟩,
  ⟨63852, 63852, 1, -41230⟩, ⟨63853, 63853, 1, -33388⟩, ⟨63854, 63854, 1, -29989⟩,
  ⟨63855, 63855, 1, -28357⟩, ⟨63856, 63856, 1, -36278⟩, ⟨63857, 63857, 1, -27073⟩,
  ⟨63858, 63858, 1, -36074⟩, ⟨63859, 63859, 1, -38517⟩, ⟨63860, 63860, 1, -30351⟩,
  ⟨63861, 63861, 1, -38357⟩, ⟨63862, 63862, 1, -33809⟩, ⟨63863, 63863, 1, -43721⟩,
  ⟨63864, 63864, 1, -43023⟩, ⟨63865, 63865, 1, -42928⟩, ⟨63866, 63866, 1, -37113⟩,
  ⟨63867, 63867, 1, -31892⟩, ⟨63868, 63868, 1, -30477⟩, ⟨63869, 63869, 1, -28331⟩,
  ⟨63870, 63870, 1, -26543⟩, ⟨63871, 63871, 1, -42634⟩, ⟨63872, 63872, 1, -42302⟩,
  ⟨63873, 63873, 1, -40974⟩, ⟨63874, 63874, 1, -39574⟩, ⟨63875, 63875, 1, -37822⟩,
  ⟨63876, 63876, 1, -35206⟩, ⟨63877, 63877, 1, -32859⟩, ⟨63878, 63878, 1, -25561⟩,
  ⟨63879, 63879, 1, -24349⟩, ⟨63880, 63880, 1, -23281⟩, ⟨63881, 63881, 1, -23227⟩,
  ⟨63882, 63882, 1, -42735⟩, ⟨63883, 63883, 1, -37573⟩, ⟨63884, 63884, 1, -36373⟩,
  ⟨63885, 63885, 1, -27179⟩, ⟨63886, 63886, 1, -39706⟩, ⟨63887, 63887, 1, -38911⟩,
  ⟨63888, 63888, 1, -38800⟩, ⟨63889, 63889, 1, -38135⟩, ⟨63890, 63890, 1, -35439⟩,
  ⟨63891, 63891, 1, -34890⟩, ⟨63892, 63892, 1, -34059⟩, ⟨63893, 63893, 1, -32715⟩,
  ⟨63894, 63894, 1, -31650⟩, ⟨63895, 63895, 1, -31016⟩, ⟨63896, 63896, 1, -27250⟩,
  ⟨63897, 63897, 1, -29867⟩, ⟨63898, 63898, 1, -26999⟩, ⟨63899, 63899, 1, -26193⟩,
  ⟨63900, 63900, 1, -42885⟩, ⟨63901, 63901, 1, -42746⟩, ⟨63902, 63902, 1, -42209⟩,
  ⟨63903, 63903, 1, -35031⟩, ⟨63904, 63904, 1, -28894⟩, ⟨63905, 63905, 1, -28407⟩,
  ⟨63906, 63906, 1, -39641⟩, ⟨63907, 63907, 1, -39342⟩, ⟨63908, 63908, 1, -38441⟩,
  ⟨63909, 63909, 1, -36343⟩, ⟨63910, 63910, 1, -32104⟩, ⟨63911, 63911, 1, -34354⟩,
  ⟨63912, 63912, 1, -43716⟩, ⟨63913, 63913, 1, -41648⟩, ⟨63914, 63914, 1, -40387⟩,
  ⟨63915, 63915, 1, -39921⟩, ⟨63916, 63916, 1, -39312⟩, ⟨63917, 63917, 1, -34299⟩,
  ⟨63918, 63918, 1, -34117⟩, ⟨63919, 63919, 1, -31253⟩, ⟨63920, 63920, 1, -31082⟩,
  ⟨63921, 63921, 1, -26493⟩, ⟨63922, 63922, 1, -25276⟩, ⟨63923, 63923, 1, -25195⟩,
  ⟨63924, 63924, 1, -24988⟩, ⟨63925, 63925, 1, -43562⟩, ⟨63926, 63926, 1, -32776⟩,
  ⟨63927, 63927, 1, -26627⟩, ⟨63928, 63928, 1, -25344⟩, ⟨63929, 63929, 1, -39128⟩,
  ⟨63930, 63930, 1, -43828⟩, ⟨63931, 63931, 1, -43233⟩, ⟨63932, 63932, 1, -40398⟩,
  ⟨63933, 63933, 1, -40318⟩, ⟨63934, 63934, 1, -37925⟩, ⟨63935, 63935, 1, -36797⟩,
  ⟨63936, 63936, 1, -34802⟩, ⟨63937, 63937, 1, -33663⟩, ⟨63938, 63938, 1, -29894⟩,
  ⟨63939, 63939, 1, -26951⟩, ⟨63940, 63940, 1, -23095⟩, ⟨63941, 63941, 1, -37693⟩,
  ⟨63942, 63942, 1, -25496⟩, ⟨63943, 63943, 1, -42814⟩, ⟨63944, 63944, 1, -37453⟩,
  ⟨63945, 63945, 1, -37334⟩, ⟨63946, 63946, 1, -35977⟩, ⟨63947, 63947, 1, -35631⟩,
  ⟨63948, 63948, 1, -34243⟩, ⟨63949, 63949, 1, -33908⟩, ⟨63950, 63950, 1, -33123⟩,
  ⟨63951, 63951, 1, -31935⟩, ⟨63952, 63952, 1, -24946⟩, ⟨63953, 63953, 1, -43108⟩,
  ⟨63954, 63954, 1, -38820⟩, ⟨63955, 63955, 1, -25435⟩, ⟨63956, 63956, 1, -43433⟩,
  ⟨63957, 63957, 1, -40124⟩, ⟨63958, 63958, 1, -35820⟩, ⟨63959, 63959, 1, -27309⟩,
  ⟨63960, 63960, 1, -39501⟩, ⟨63961, 63961, 1, -39061⟩, ⟨63962, 63962, 1, -37315⟩,
  ⟨63963, 63963, 1, -34388⟩, ⟨63964, 63964, 1, -25430⟩, ⟨63965, 63965, 1, -42932⟩,
  ⟨63966, 63966, 1, -42447⟩, ⟨63967, 63967, 1, -40314⟩, ⟨63968, 63968, 1, -37837⟩,
  ⟨63969, 63969, 1, -37523⟩, ⟨63970, 63970, 1, -37178⟩, ⟨63971, 63971, 1, -36094⟩,
  ⟨63972, 63972, 1, -34270⟩, ⟨63973, 63973, 1, -33795⟩, ⟨63974, 63974, 1, -31341⟩,
  ⟨63975, 63975, 1, -28952⟩, ⟨63976, 63976, 1, -28935⟩, ⟨63977, 63977, 1, -26653⟩,
  ⟨63978, 63978, 1, -25352⟩, ⟨63979, 63979, 1, -42668⟩, ⟨63980, 63980, 1, -35634⟩,
  ⟨63981, 63981, 1, -42448⟩, ⟨63982, 63982, 1, -34846⟩, ⟨63983, 63983, 1, -34135⟩,
  ⟨63984, 63984, 1, -29686⟩, ⟨63985, 63985, 1, -25422⟩, ⟨63986, 63986, 1, -23963⟩,
  ⟨63987, 63987, 1, -23380⟩, ⟨63988, 63988, 1, -37469⟩, ⟨63989, 63989, 1, -35882⟩,
  ⟨63990, 63990, 1, -30734⟩, ⟨63991, 63991, 1, -32556⟩, ⟨63992, 63992, 1, -32472⟩,
  ⟨63993, 63993, 1, -32103⟩, ⟨63994, 63994, 1, -34618⟩, ⟨63995, 63995, 1, -35170⟩,
  ⟨63996, 63996, 1, -28324⟩, ⟨63997, 63997, 1, -43837⟩, ⟨63998, 63998, 1, -30408⟩,
  ⟨63999, 63999, 1, -42949⟩, ⟨64000, 64000, 1, -43001⟩, ⟨64001, 64001, 1, -39771⟩,
  ⟨64002, 64002, 1, -38703⟩, ⟨64003, 64003, 1, -32045⟩, ⟨64004, 64004, 1, -40575⟩,
  ⟨64005, 64005, 1, -36071⟩, ⟨64006, 64006, 1, -37714⟩, ⟨64007, 64007, 1, -27340⟩,
  ⟨64008, 64008, 1, -29116⟩, ⟨64009, 64009, 1, -25532⟩, ⟨64010, 64010, 1, -28799⟩,
  ⟨64011, 64011, 1, -39736⟩, ⟨64012, 64012, 1, -43212⟩, ⟨64013, 64013, 1, -42061⟩,
  ⟨64016, 64016, 1, -41398⟩, ⟨64018, 64018, 1, -37790⟩, ⟨64021, 64021, 1, -43063⟩,
  ⟨64022, 64022, 1, -34540⟩, ⟨64023, 64023, 1, -33613⟩, ⟨64024, 64024, 1, -32988⟩,
  ⟨64025, 64025, 1, -32955⟩, ⟨64026, 64026, 1, -32949⟩, ⟨64027, 64027, 1, -32908⟩,
  ⟨64028, 64028, 1, -25286⟩, ⟨64029, 64029, 1, -32095⟩, ⟨64030, 64030, 1, -31329⟩,
  ⟨64032, 64032, 1, -29710⟩, ⟨64034, 64034, 1, -28458⟩, ⟨64037, 64037, 1, -27117⟩,
  ⟨64038, 64038, 1, -26921⟩, ⟨64042, 64042, 1, -24891⟩, ⟨64043, 64043, 1, -24879⟩,
  ⟨64044, 64044, 1, -24836⟩, ⟨64045, 64045, 1, -23673⟩, ⟨64046, 64046, 1, -26960⟩,
  ⟨64047, 64047, 1, -25464⟩, ⟨64048, 64048, 1, -43650⟩, ⟨64049, 64049, 1, -43338⟩,
  ⟨64050, 64050, 1, -43237⟩, ⟨64051, 64051, 1, -42858⟩, ⟨64052, 64052, 1, -42832⟩,
  ⟨64053, 64053, 1, -42724⟩, ⟨64054, 64054, 1, -42137⟩, ⟨64055, 64055, 1, -42033⟩,
  ⟨64056, 64056, 1, -41936⟩, ⟨64057, 64057, 1, -41465⟩, ⟨64058, 64058, 1, -41362⟩,
  ⟨64059, 64059, 1, -40407⟩, ⟨64060, 64060, 1, -40398⟩, ⟨64061, 64061, 1, -39337⟩,
  ⟨64062, 64062, 1, -39126⟩, ⟨64063, 64063, 1, -39089⟩, ⟨64064, 64064, 1, -38990⟩,
  ⟨64065, 64065, 1, -38130⟩, ⟨64066, 64066, 1, -37984⟩, ⟨64067, 64067, 1, -37810⟩,
  ⟨64068, 64068, 1, -37311⟩, ⟨64069, 64069, 1, -36046⟩, ⟨64070, 64070, 1, -35884⟩,
  ⟨64071, 64071, 1, -35621⟩, ⟨64072, 64072, 1, -35034⟩, ⟨64073, 64073, 1, -34846⟩,
  ⟨64074, 64074, 1, -34344⟩, ⟨64075, 64075, 1, -33210⟩, ⟨64076, 64076, 1, -33038⟩,
  ⟨64077, 64077, 1, -33028⟩, ⟨64078, 64078, 1, -33030⟩, ⟨64079, 64079, 1, -33023⟩,
  ⟨64080, 64080, 1, -33018⟩, ⟨64081, 64081, 1, -33012⟩, ⟨64082, 64083, 1, -32965⟩,
  ⟨64084, 64084, 1, -32788⟩, ⟨64085, 64085, 1, -32724⟩, ⟨64086, 64086, 1, -32406⟩,
  ⟨64087, 64087, 1, -31843⟩, ⟨64088, 64088, 1, -31823⟩, ⟨64089, 64089, 1, -31768⟩,
  ⟨64090, 64090, 1, -31464⟩, ⟨64091, 64091, 1, -31318⟩, ⟨64092, 64092, 1, -30831⟩,
  ⟨64093, 64093, 1, -30692⟩, ⟨64094, 64094, 1, -30693⟩, ⟨64095, 64095, 1, -30216⟩,
  ⟨64096, 64096, 1, -29008⟩, ⟨64097, 64097, 1, -28875⟩, ⟨64098, 64098, 1, -28513⟩,
  ⟨64099, 64099, 1, -28458⟩, ⟨64100, 64100, 1, -28049⟩, ⟨64101, 64101, 1, -27997⟩,
  ⟨64102, 64102, 1, -27312⟩, ⟨64103, 64103, 1, -27183⟩, ⟨64104, 64104, 1, -25477⟩,
  ⟨64105, 64105, 1, -25194⟩, ⟨64106, 64106, 1, -25135⟩, ⟨64107, 64107, 1, -39414⟩,
  ⟨64108, 64108, 1, 84098⟩, ⟨64109, 64109, 1, -30805⟩, ⟨64112, 64112, 1, -44106⟩,
  ⟨64113, 64113, 1, -43196⟩, ⟨64114, 64114, 1, -43274⟩, ⟨64115, 64115, 1, -43763⟩,
  ⟨64116, 64116, 1, -43311⟩, ⟨64117, 64117, 1, -43253⟩, ⟨64118, 64118, 1, -42927⟩,
  ⟨64119, 64119, 1, -42877⟩, ⟨64120, 64120, 1, -42203⟩, ⟨64121, 64121, 1, -42276⟩,
  ⟨64122, 64122, 1, -42209⟩, ⟨64123, 64123, 1, -42137⟩, ⟨64124, 64124, 1, -41506⟩,
  ⟨64125, 64125, 1, -41418⟩, ⟨64126, 64126, 1, -41274⟩, ⟨64127, 64127, 1, -41259⟩,
  ⟨64128, 64128, 1, -40990⟩, ⟨64129, 64129, 1, -40793⟩, ⟨64130, 64130, 1, -39856⟩,
  ⟨64131, 64131, 1, -39850⟩, ⟨64132, 64132, 1, -39707⟩, ⟨64133, 64133, 1, -39640⟩,
  ⟨64134, 64134, 1, -39342⟩, ⟨64135, 64135, 1, -39225⟩, ⟨64136, 64136, 1, -39296⟩,
  ⟨64137, 64137, 1, -39163⟩, ⟨64138, 64138, 1, -39210⟩, ⟨64139, 64139, 1, -39065⟩,
  ⟨64140, 64140, 1, -39000⟩, ⟨64141, 64141, 1, -38601⟩, ⟨64142, 64142, 1, -38514⟩,
  ⟨64143, 64143, 1, -38461⟩, ⟨64144, 64144, 1, -38202⟩, ⟨64145, 64145, 1, -37917⟩,
  ⟨64146, 64146, 1, -37755⟩, ⟨64147, 64147, 1, -37752⟩, ⟨64148, 64148, 1, -37694⟩,
  ⟨64149, 64149, 1, -36636⟩, ⟨64150, 64150, 1, -36572⟩, ⟨64151, 64151, 1, -36182⟩,
  ⟨64152, 64152, 1, -35773⟩, ⟨64153, 64153, 1, -35790⟩, ⟨64154, 64154, 1, -35704⟩,
  ⟨64155, 64155, 1, -35453⟩, ⟨64156, 64156, 1, -35118⟩, ⟨64157, 64157, 1, -33526⟩,
  ⟨64158, 64158, 1, -34921⟩, ⟨64159, 64159, 1, -34800⟩, ⟨64160, 64160, 1, -34678⟩,
  ⟨64161, 64161, 1, -34352⟩, ⟨64162, 64162, 1, -34204⟩, ⟨64163, 64163, 1, -34152⟩,
  ⟨64164, 64164, 1, -33927⟩, ⟨64165, 64165, 1, -33926⟩, ⟨64166, 64166, 1, -33756⟩,
  ⟨64167, 64167, 1, -33740⟩, ⟨64168, 64168, 1, -33716⟩, ⟨64169, 64169, 1, -33631⟩,
  ⟨64170, 64170, 1, -33642⟩, ⟨64171, 64171, 1, -33247⟩, ⟨64172, 64172, 1, -32763⟩,
  ⟨64173, 64173, 1, -32493⟩, ⟨64174, 64174, 1, -32307⟩, ⟨64175, 64175, 1, -32084⟩,
  ⟨64176, 64176, 1, -31932⟩, ⟨64177, 64177, 1, -31603⟩, ⟨64178, 64178, 1, -31405⟩,
  ⟨64179, 64179, 1, -30561⟩, ⟨64180, 64180, 1, -30405⟩, ⟨64181, 64181, 1, -29500⟩,
  ⟨64182, 64182, 1, -29045⟩, ⟨64183, 64183, 1, -28977⟩, ⟨64184, 64184, 1, -28962⟩,
  ⟨64185, 64185, 1, -28666⟩, ⟨64186, 64186, 1, -28610⟩, ⟨64187, 64187, 1, -28656⟩,
  ⟨64188, 64188, 1, -28603⟩, ⟨64189, 64189, 1, -28607⟩, ⟨64190, 64190, 1, -28625⟩,
  ⟨64191, 64191, 1, -28550⟩, ⟨64192, 64192, 1, -28470⟩, ⟨64193, 64193, 1, -28089⟩,
  ⟨64194, 64194, 1, -27530⟩, ⟨64195, 64195, 1, -27217⟩, ⟨64196, 64196, 1, -26923⟩,
  ⟨64197, 64197, 1, -26703⟩, ⟨64198, 64198, 1, -25674⟩, ⟨64199, 64199, 1, -25572⟩,
  ⟨64200, 64200, 1, -25458⟩, ⟨64201, 64201, 1, -25326⟩, ⟨64202, 64202, 1, -25291⟩,
  ⟨64203, 64203, 1, -25280⟩, ⟨64204, 64204, 1, -25233⟩, ⟨64205, 64205, 1, -24507⟩,
  ⟨64206, 64206, 1, -23346⟩, ⟨64207, 64207, 1, 77179⟩, ⟨64208, 64208, 1, 77172⟩,
  ⟨64209, 64209, 1, 80132⟩, ⟨64210, 64210, 1, -48949⟩, ⟨64211, 64211, 1, -47803⟩,
  ⟨64212, 64212, 1, -47771⟩, ⟨64213, 64213, 1, 87924⟩, ⟨64214, 64214, 1, 90618⟩,
  ⟨64215, 64215, 1, 99324⟩, ⟨64216, 64216, 1, -23445⟩, ⟨64217, 64217, 1, -23371⟩,
  ⟨64288, 64288, 1, -62782⟩, ⟨64289, 64289, 1, -62801⟩, ⟨64290, 64291, 1, -62799⟩,
  ⟨64292, 64294, 1, -62793⟩, ⟨64295, 64295, 1, -62783⟩, ⟨64296, 64296, 1, -62782⟩,
  ⟨64297, 64297, 1, -64254⟩, ⟨64336, 64336, 1, -62687⟩, ⟨64337, 64337, 1, -62688⟩,
  ⟨64338, 64338, 1, -62679⟩, ⟨64339, 64339, 1, -62680⟩, ⟨64340, 64340, 1, -62681⟩,
  ⟨64341, 64341, 1, -62682⟩, ⟨64342, 64342, 1, -62680⟩, ⟨64343, 64343, 1, -62681⟩,
  ⟨64344, 64344, 1, -62682⟩, ⟨64345, 64345, 1, -62683⟩, ⟨64346, 64346, 1, -62682⟩,
  ⟨64347, 64347, 1, -62683⟩, ⟨64348, 64348, 1, -62684⟩, ⟨64349, 64349, 1, -62685⟩,
  ⟨64350, 64350, 1, -62692⟩, ⟨64351, 64351, 1, -62693⟩, ⟨64352, 64352, 1, -62694⟩,
  ⟨64353, 64353, 1, -62695⟩, ⟨64354, 64354, 1, -62691⟩, ⟨64355, 64355, 1, -62692⟩,
  ⟨64356, 64356, 1, -62693⟩, ⟨64357, 64357, 1, -62694⟩, ⟨64358, 64358, 1, -62701⟩,
  ⟨64359, 64359, 1, -62702⟩, ⟨64360, 64360, 1, -62703⟩, ⟨64361, 64361, 1, -62704⟩,
  ⟨64362, 64362, 1, -62662⟩, ⟨64363, 64363, 1, -62663⟩, ⟨64364, 64364, 1, -62664⟩,
  ⟨64365, 64365, 1, -62665⟩, ⟨64366, 64366, 1, -62664⟩, ⟨64367, 64367, 1, -62665⟩,
  ⟨64368, 64368, 1, -62666⟩, ⟨64369, 64369, 1, -62667⟩, ⟨64370, 64370, 1, -62702⟩,
  ⟨64371, 64371, 1, -62703⟩, ⟨64372, 64372, 1, -62704⟩, ⟨64373, 64373, 1, -62705⟩,
  ⟨64374, 64374, 1, -62707⟩, ⟨64375, 64375, 1, -62708⟩, ⟨64376, 64376, 1, -62709⟩,
  ⟨64377, 64377, 1, -62710⟩, ⟨64378, 64378, 1, -62708⟩, ⟨64379, 64379, 1, -62709⟩,
  ⟨64380, 64380, 1, -62710⟩, ⟨64381, 64382, 1, -62711⟩, ⟨64383, 64383, 1, -62712⟩,
  ⟨64384, 64384, 1, -62713⟩, ⟨64385, 64385, 1, -62714⟩, ⟨64386, 64386, 1, -62709⟩,
  ⟨64387, 64387, 1, -62710⟩, ⟨64388, 64388, 1, -62712⟩, ⟨64389, 64389, 1, -62713⟩,
  ⟨64390, 64390, 1, -62712⟩, ⟨64391, 64391, 1, -62713⟩, ⟨64392, 64392, 1, -62720⟩,
  ⟨64393, 64393, 1, -62721⟩, ⟨64394, 64394, 1, -62706⟩, ⟨64395, 64395, 1, -62707⟩,
  ⟨64396, 64396, 1, -62715⟩, ⟨64397, 64397, 1, -62716⟩, ⟨64398, 64398, 1, -62693⟩,
  ⟨64399, 64399, 1, -62694⟩, ⟨64400, 64400, 1, -62695⟩, ⟨64401, 64401, 1, -62696⟩,
  ⟨64402, 64402, 1, -62691⟩, ⟨64403, 64403, 1, -62692⟩, ⟨64404, 64404, 1, -62693⟩,
  ⟨64405, 64405, 1, -62694⟩, ⟨64406, 64406, 1, -62691⟩, ⟨64407, 64407, 1, -62692⟩,
  ⟨64408, 64408, 1, -62693⟩, ⟨64409, 64409, 1, -62694⟩, ⟨64410, 64410, 1, -62697⟩,
  ⟨64411, 64411, 1, -62698⟩, ⟨64412, 64412, 1, -62699⟩, ⟨64413, 64413, 1, -62700⟩,
  ⟨64414, 64414, 1, -62692⟩, ⟨64415, 64416, 1, -62693⟩, ⟨64417, 64417, 1, -62694⟩,
  ⟨64418, 64418, 1, -62695⟩, ⟨64419, 64419, 1, -62696⟩, ⟨64420, 64420, 1, -62692⟩,
  ⟨64421, 64422, 1, -62693⟩, ⟨64423, 64423, 1, -62694⟩, ⟨64424, 64424, 1, -62695⟩,
  ⟨64425, 64425, 1, -62696⟩, ⟨64426, 64426, 1, -62700⟩, ⟨64427, 64427, 1, -62701⟩,
  ⟨64428, 64428, 1, -62702⟩, ⟨64429, 64429, 1, -62703⟩, ⟨64430, 64430, 1, -62684⟩,
  ⟨64431, 64432, 1, -62685⟩, ⟨64433, 64433, 1, -62686⟩, ⟨64467, 64467, 1, -62758⟩,
  ⟨64468, 64468, 1, -62759⟩, ⟨64469, 64469, 1, -62760⟩, ⟨64470, 64470, 1, -62761⟩,
  ⟨64471, 64471, 1, -62736⟩, ⟨64472, 64472, 1, -62737⟩, ⟨64473, 64473, 1, -62739⟩,
  ⟨64474, 64474, 1, -62740⟩, ⟨64475, 64475, 1, -62739⟩, ⟨64476, 64476, 1, -62740⟩,
  ⟨64478, 64478, 1, -62739⟩, ⟨64479, 64479, 1, -62740⟩, ⟨64480, 64480, 1, -62747⟩,
  ⟨64481, 64481, 1, -62748⟩, ⟨64482, 64482, 1, -62745⟩, ⟨64483, 64483, 1, -62746⟩,
  ⟨64484, 64484, 1, -62740⟩, ⟨64485, 64485, 1, -62741⟩, ⟨64486, 64486, 1, -62742⟩,
  ⟨64487, 64487, 1, -62743⟩, ⟨64488, 64488, 1, -62879⟩, ⟨64489, 64489, 1, -62880⟩,
  ⟨64508, 64508, 1, -62768⟩, ⟨64509, 64509, 1, -62769⟩, ⟨64510, 64510, 1, -62770⟩,
  ⟨64511, 64511, 1, -62771⟩, ⟨65040, 65040, 1, -64996⟩, ⟨65041, 65041, 1, -52752⟩,
  ⟨65043, 65044, 1, -64985⟩, ⟨65045, 65045, 1, -65012⟩, ⟨65046, 65046, 1, -64983⟩,
  ⟨65047, 65048, 1, -52737⟩, ⟨65073, 65073, 1, -56861⟩, ⟨65074, 65074, 1, -56863⟩,
  ⟨65075, 65075, 1, -64980⟩, ⟨65076, 65076, 1, -64981⟩, ⟨65077, 65078, 1, -65037⟩,
  ⟨65079, 65079, 1, -64956⟩, ⟨65080, 65080, 1, -64955⟩, ⟨65081, 65082, 1, -52773⟩,
  ⟨65083, 65084, 1, -52779⟩, ⟨65085, 65086, 1, -52787⟩, ⟨65087, 65088, 1, -52791⟩,
  ⟨65089, 65092, 1, -52789⟩, ⟨65095, 65095, 1, -65004⟩, ⟨65096, 65096, 1, -65003⟩,
  ⟨65101, 65101, 1, -65006⟩, ⟨65102, 65102, 1, -65007⟩, ⟨65103, 65103, 1, -65008⟩,
  ⟨65104, 65104, 1, -65060⟩, ⟨65105, 65105, 1, -52816⟩, ⟨65108, 65108, 1, -65049⟩,
  ⟨65109, 65109, 1, -65051⟩, ⟨65110, 65110, 1, -65047⟩, ⟨65111, 65111, 1, -65078⟩,
  ⟨65112, 65112, 1, -56900⟩, ⟨65113, 65114, 1, -65073⟩, ⟨65115, 65115, 1, -64992⟩,
  ⟨65116, 65116, 1, -64991⟩, ⟨65117, 65118, 1, -52809⟩, ⟨65119, 65119, 1, -65084⟩,
  ⟨65120, 65120, 1, -65082⟩, ⟨65121, 65122, 1, -65079⟩, ⟨65123, 65123, 1, -65078⟩,
  ⟨65124, 65124, 1, -65064⟩, ⟨65125, 65125, 1, -65063⟩, ⟨65126, 65126, 1, -65065⟩,
  ⟨65128, 65128, 1, -65036⟩, ⟨65129, 65130, 1, -65093⟩, ⟨65131, 65131, 1, -65067⟩,
  ⟨65152, 65153, 1, -63583⟩, ⟨65154, 65155, 1, -63584⟩, ⟨65156, 65157, 1, -63585⟩,
  ⟨65158, 65159, 1, -63586⟩, ⟨65160, 65161, 1, -63587⟩, ⟨65162, 65162, 1, -63588⟩,
  ⟨65163, 65163, 1, -63589⟩, ⟨65164, 65165, 1, -63590⟩, ⟨65166, 65167, 1, -63591⟩,
  ⟨65168, 65168, 1, -63592⟩, ⟨65169, 65169, 1, -63593⟩, ⟨65170, 65171, 1, -63594⟩,
  ⟨65172, 65173, 1, -63595⟩, ⟨65174, 65174, 1, -63596⟩, ⟨65175, 65175, 1, -63597⟩,
  ⟨65176, 65177, 1, -63598⟩, ⟨65178, 65178, 1, -63599⟩, ⟨65179, 65179, 1, -63600⟩,
  ⟨65180, 65181, 1, -63601⟩, ⟨65182, 65182, 1, -63602⟩, ⟨65183, 65183, 1, -63603⟩,
  ⟨65184, 65185, 1, -63604⟩, ⟨65186, 65186, 1, -63605⟩, ⟨65187, 65187, 1, -63606⟩,
  ⟨65188, 65189, 1, -63607⟩, ⟨65190, 65190, 1, -63608⟩, ⟨65191, 65191, 1, -63609⟩,
  ⟨65192, 65193, 1, -63610⟩, ⟨65194, 65195, 1, -63611⟩, ⟨65196, 65197, 1, -63612⟩,
  ⟨65198, 65199, 1, -63613⟩, ⟨65200, 65201, 1, -63614⟩, ⟨65202, 65202, 1, -63615⟩,
  ⟨65203, 65203, 1, -63616⟩, ⟨65204, 65205, 1, -63617⟩, ⟨65206, 65206, 1, -63618⟩,
  ⟨65207, 65207, 1, -63619⟩, ⟨65208, 65209, 1, -63620⟩, ⟨65210, 65210, 1, -63621⟩,
  ⟨65211, 65211, 1, -63622⟩, ⟨65212, 65213, 1, -63623⟩, ⟨65214, 65214, 1, -63624⟩,
  ⟨65215, 65215, 1, -63625⟩, ⟨65216, 65217, 1, -63626⟩, ⟨65218, 65218, 1, -63627⟩,
  ⟨65219, 65219, 1, -63628⟩, ⟨65220, 65221, 1, -63629⟩, ⟨65222, 65222, 1, -63630⟩,
  ⟨65223, 65223, 1, -63631⟩, ⟨65224, 65225, 1, -63632⟩, ⟨65226, 65226, 1, -63633⟩,
  ⟨65227, 65227, 1, -63634⟩, ⟨65228, 65229, 1, -63635⟩, ⟨65230, 65230, 1, -63636⟩,
  ⟨65231, 65231, 1, -63637⟩, ⟨65232, 65232, 1, -63638⟩, ⟨65233, 65233, 1, -63632⟩,
  ⟨65234, 65234, 1, -63633⟩, ⟨65235, 65235, 1, -63634⟩, ⟨65236, 65237, 1, -63635⟩,
  ⟨65238, 65238, 1, -63636⟩, ⟨65239, 65239, 1, -63637⟩, ⟨65240, 65241, 1, -63638⟩,
  ⟨65242, 65242, 1, -63639⟩, ⟨65243, 65243, 1, -63640⟩, ⟨65244, 65245, 1, -63641⟩,
  ⟨65246, 65246, 1, -63642⟩, ⟨65247, 65247, 1, -63643⟩, ⟨65248, 65249, 1, -63644⟩,
  ⟨65250, 65250, 1, -63645⟩, ⟨65251, 65251, 1, -63646⟩, ⟨65252, 65253, 1, -63647⟩,
  ⟨65254, 65254, 1, -63648⟩, ⟨65255, 65255, 1, -63649⟩, ⟨65256, 65257, 1, -63650⟩,
  ⟨65258, 65258, 1, -63651⟩, ⟨65259, 65259, 1, -63652⟩, ⟨65260, 65261, 1, -63653⟩,
  ⟨65262, 65263, 1, -63654⟩, ⟨65264, 65265, 1, -63655⟩, ⟨65266, 65266, 1, -63656⟩,
  ⟨65267, 65267, 1, -63657⟩, ⟨65268, 65268, 1, -63658⟩, ⟨65281, 65312, 1, -65248⟩,
  ⟨65313, 65338, 1, -65216⟩, ⟨65339, 65374, 1, -65248⟩, ⟨65375, 65376, 1, -54746⟩,
  ⟨65377, 65377, 1, -65331⟩, ⟨65378, 65379, 1, -53078⟩, ⟨65380, 65380, 1, -53091⟩,
  ⟨65381, 65381, 1, -52842⟩, ⟨65382, 65382, 1, -52852⟩, ⟨65383, 65383, 1, -52934⟩,
  ⟨65384, 65384, 1, -52933⟩, ⟨65385, 65385, 1, -52932⟩, ⟨65386, 65386, 1, -52931⟩,
  ⟨65387, 65387, 1, -52930⟩, ⟨65388, 65388, 1, -52873⟩, ⟨65389, 65389, 1, -52872⟩,
  ⟨65390, 65390, 1, -52871⟩, ⟨65391, 65391, 1, -52908⟩, ⟨65392, 65392, 1, -52852⟩,
  ⟨65393, 65393, 1, -52943⟩, ⟨65394, 65394, 1, -52942⟩, ⟨65395, 65395, 1, -52941⟩,
  ⟨65396, 65396, 1, -52940⟩, ⟨65397, 65398, 1, -52939⟩, ⟨65399, 65399, 1, -52938⟩,
  ⟨65400, 65400, 1, -52937⟩, ⟨65401, 65401, 1, -52936⟩, ⟨65402, 65402, 1, -52935⟩,
  ⟨65403, 65403, 1, -52934⟩, ⟨65404, 65404, 1, -52933⟩, ⟨65405, 65405, 1, -52932⟩,
  ⟨65406, 65406, 1, -52931⟩, ⟨65407, 65407, 1, -52930⟩, ⟨65408, 65408, 1, -52929⟩,
  ⟨65409, 65409, 1, -52928⟩, ⟨65410, 65410, 1, -52926⟩, ⟨65411, 65411, 1, -52925⟩,
  ⟨65412, 65412, 1, -52924⟩, ⟨65413, 65418, 1, -52923⟩, ⟨65419, 65419, 1, -52921⟩,
  ⟨65420, 65420, 1, -52919⟩, ⟨65421, 65421, 1, -52917⟩, ⟨65422, 65422, 1, -52915⟩,
  ⟨65423, 65427, 1, -52913⟩, ⟨65428, 65428, 1, -52912⟩, ⟨65429, 65429, 1, -52911⟩,
  ⟨65430, 65435, 1, -52910⟩, ⟨65436, 65436, 1, -52909⟩, ⟨65437, 65437, 1, -52906⟩,
  ⟨65438, 65439, 1, -52997⟩, ⟨65441, 65442, 1, -61089⟩, ⟨65443, 65443, 1, -60921⟩,
  ⟨65444, 65444, 1, -61090⟩, ⟨65445, 65446, 1, -60921⟩, ⟨65447, 65449, 1, -61092⟩,
  ⟨65450, 65455, 1, -60922⟩, ⟨65456, 65456, 1, -61078⟩, ⟨65457, 65459, 1, -61099⟩,
  ⟨65460, 65460, 1, -61075⟩, ⟨65461, 65470, 1, -61100⟩, ⟨65474, 65479, 1, -61025⟩,
  ⟨65482, 65487, 1, -61027⟩, ⟨65490, 65495, 1, -61029⟩, ⟨65498, 65500, 1, -61031⟩,
  ⟨65504, 65505, 1, -65342⟩, ⟨65506, 65506, 1, -65334⟩, ⟨65508, 65508, 1, -65342⟩,
  ⟨65509, 65509, 1, -65344⟩, ⟨65510, 65510, 1, -57149⟩, ⟨65512, 65512, 1, -56038⟩,
  ⟨65513, 65516, 1, -56921⟩, ⟨65517, 65517, 1, -55885⟩, ⟨65518, 65518, 1, -55843⟩,
  ⟨66560, 66599, 1, 40⟩, ⟨66736, 66771, 1, 40⟩, ⟨66928, 66938, 1, 39⟩, ⟨66940, 66954, 1, 39⟩,
  ⟨66956, 66962, 1, 39⟩, ⟨66964, 66965, 1, 39⟩, ⟨67457, 67458, 1, -66737⟩,
  ⟨67459, 67459, 1, -67229⟩, ⟨67460, 67460, 1, -66795⟩, ⟨67461, 67461, 1, -66866⟩,
  ⟨67463, 67463, 1, -66788⟩, ⟨67464, 67464, 1, -23586⟩, ⟨67465, 67465, 1, -66788⟩,
  ⟨67466, 67466, 1, -66790⟩, ⟨67467, 67468, 1, -66869⟩, ⟨67469, 67469, 1, -59900⟩,
  ⟨67470, 67470, 1, -66870⟩, ⟨67471, 67471, 1, -66865⟩, ⟨67472, 67472, 1, -66791⟩,
  ⟨67473, 67473, 1, -66861⟩, ⟨67474, 67474, 1, -66864⟩, ⟨67475, 67475, 1, -66867⟩,
  ⟨67476, 67476, 1, -66809⟩, ⟨67477, 67477, 1, -67182⟩, ⟨67478, 67478, 1, -66810⟩,
  ⟨67479, 67479, 1, -66864⟩, ⟨67480, 67480, 1, -66836⟩, ⟨67481, 67482, 1, -66799⟩,
  ⟨67483, 67483, 1, -66863⟩, ⟨67484, 67484, 1, 55144⟩, ⟨67485, 67485, 1, -24591⟩,
  ⟨67486, 67486, 1, -66864⟩, ⟨67487, 67487, 1, 55142⟩, ⟨67488, 67488, 1, -66834⟩,
  ⟨67489, 67489, 1, 55141⟩, ⟨67490, 67490, 1, -67242⟩, ⟨67491, 67492, 1, -66861⟩,
  ⟨67493, 67493, 1, -67380⟩, ⟨67494, 67494, 1, -66860⟩, ⟨67495, 67495, 1, 55137⟩,
  ⟨67496, 67497, 1, -66859⟩, ⟨67498, 67498, 1, -66858⟩, ⟨67499, 67499, 1, -66819⟩,
  ⟨67500, 67500, 1, -66822⟩, ⟨67501, 67501, 1, -23622⟩, ⟨67502, 67502, 1, -66823⟩,
  ⟨67503, 67503, 1, -66855⟩, ⟨67504, 67504, 1, -56127⟩, ⟨67506, 67506, 1, -66851⟩,
  ⟨67507, 67508, 1, -66834⟩, ⟨67509, 67509, 1, -66845⟩, ⟨67510, 67512, 1, -67062⟩,
  ⟨67513, 67513, 1, 55121⟩, ⟨67514, 67514, 1, 55140⟩, ⟨68736, 68786, 1, 64⟩,
  ⟨68944, 68965, 1, 32⟩, ⟨71840, 71871, 1, 32⟩, ⟨93760, 93791, 1, 32⟩, ⟨93856, 93880, 1, 27⟩,
  ⟨117974, 117999, 1, -117877⟩, ⟨118000, 118009, 1, -117952⟩, ⟨119808, 119833, 1, -119711⟩,
  ⟨119834, 119859, 1, -119737⟩, ⟨119860, 119885, 1, -119763⟩, ⟨119886, 119892, 1, -119789⟩,
  ⟨119894, 119911, 1, -119789⟩, ⟨119912, 119937, 1, -119815⟩, ⟨119938, 119963, 1, -119841⟩,
  ⟨119964, 119966, 2, -119867⟩, ⟨119967, 119967, 1, -119867⟩, ⟨119970, 119970, 1, -119867⟩,
  ⟨119973, 119974, 1, -119867⟩, ⟨119977, 119980, 1, -119867⟩, ⟨119982, 119989, 1, -119867⟩,
  ⟨119990, 119993, 1, -119893⟩, ⟨119995, 119997, 2, -119893⟩, ⟨119998, 120003, 1, -119893⟩,
  ⟨120005, 120015, 1, -119893⟩, ⟨120016, 120041, 1, -119919⟩, ⟨120042, 120067, 1, -119945⟩,
  ⟨120068, 120069, 1, -119971⟩, ⟨120071, 120074, 1, -119971⟩, ⟨120077, 120084, 1, -119971⟩,
  ⟨120086, 120092, 1, -119971⟩, ⟨120094, 120119, 1, -119997⟩, ⟨120120, 120121, 1, -120023⟩,
  ⟨120123, 120126, 1, -120023⟩, ⟨120128, 120132, 1, -120023⟩, ⟨120134, 120134, 1, -120023⟩,
  ⟨120138, 120144, 1, -120023⟩, ⟨120146, 120171, 1, -120049⟩, ⟨120172, 120197, 1, -120075⟩,
  ⟨120198, 120223, 1, -120101⟩, ⟨120224, 120249, 1, -120127⟩, ⟨120250, 120275, 1, -120153⟩,
  ⟨120276, 120301, 1, -120179⟩, ⟨120302, 120327, 1, -120205⟩, ⟨120328, 120353, 1, -120231⟩,
  ⟨120354, 120379, 1, -120257⟩, ⟨120380, 120405, 1, -120283⟩, ⟨120406, 120431, 1, -120309⟩,
  ⟨120432, 120457, 1, -120335⟩, ⟨120458, 120483, 1, -120361⟩, ⟨120484, 120484, 1, -120179⟩,
  ⟨120485, 120485, 1, -119918⟩, ⟨120488, 120504, 1, -119543⟩, ⟨120505, 120505, 1, -119553⟩,
  ⟨120506, 120512, 1, -119543⟩, ⟨120513, 120513, 1, -111802⟩, ⟨120514, 120530, 1, -119569⟩,
  ⟨120531, 120531, 1, -119568⟩, ⟨120532, 120538, 1, -119569⟩, ⟨120539, 120539, 1, -111833⟩,
  ⟨120540, 120540, 1, -119591⟩, ⟨120541, 120541, 1, -119589⟩, ⟨120542, 120542, 1, -119588⟩,
  ⟨120543, 120543, 1, -119577⟩, ⟨120544, 120544, 1, -119583⟩, ⟨120545, 120545, 1, -119585⟩,
  ⟨120546, 120562, 1, -119601⟩, ⟨120563, 120563, 1, -119611⟩, ⟨120564, 120570, 1, -119601⟩,
  ⟨120571, 120571, 1, -111860⟩, ⟨120572, 120588, 1, -119627⟩, ⟨120589, 120589, 1, -119626⟩,
  ⟨120590, 120596, 1, -119627⟩, ⟨120597, 120597, 1, -111891⟩, ⟨120598, 120598, 1, -119649⟩,
  ⟨120599, 120599, 1, -119647⟩, ⟨120600, 120600, 1, -119646⟩, ⟨120601, 120601, 1, -119635⟩,
  ⟨120602, 120602, 1, -119641⟩, ⟨120603, 120603, 1, -119643⟩, ⟨120604, 120620, 1, -119659⟩,
  ⟨120621, 120621, 1, -119669⟩, ⟨120622, 120628, 1, -119659⟩, ⟨120629, 120629, 1, -111918⟩,
  ⟨120630, 120646, 1, -119685⟩, ⟨120647, 120647, 1, -119684⟩, ⟨120648, 120654, 1, -119685⟩,
  ⟨120655, 120655, 1, -111949⟩, ⟨120656, 120656, 1, -119707⟩, ⟨120657, 120657, 1, -119705⟩,
  ⟨120658, 120658, 1, -119704⟩, ⟨120659, 120659, 1, -119693⟩, ⟨120660, 120660, 1, -119699⟩,
  ⟨120661, 120661, 1, -119701⟩, ⟨120662, 120678, 1, -119717⟩, ⟨120679, 120679, 1, -119727⟩,
  ⟨120680, 120686, 1, -119717⟩, ⟨120687, 120687, 1, -111976⟩, ⟨120688, 120704, 1, -119743⟩,
  ⟨120705, 120705, 1, -119742⟩, ⟨120706, 120712, 1, -119743⟩, ⟨120713, 120713, 1, -112007⟩,
  ⟨120714, 120714, 1, -119765⟩, ⟨120715, 120715, 1, -119763⟩, ⟨120716, 120716, 1, -119762⟩,
  ⟨120717, 120717, 1, -119751⟩, ⟨120718, 120718, 1, -119757⟩, ⟨120719, 120719, 1, -119759⟩,
  ⟨120720, 120736, 1, -119775⟩, ⟨120737, 120737, 1, -119785⟩, ⟨120738, 120744, 1, -119775⟩,
  ⟨120745, 120745, 1, -112034⟩, ⟨120746, 120762, 1, -119801⟩, ⟨120763, 120763, 1, -119800⟩,
  ⟨120764, 120770, 1, -119801⟩, ⟨120771, 120771, 1, -112065⟩, ⟨120772, 120772, 1, -119823⟩,
  ⟨120773, 120773, 1, -119821⟩, ⟨120774, 120774, 1, -119820⟩, ⟨120775, 120775, 1, -119809⟩,
  ⟨120776, 120776, 1, -119815⟩, ⟨120777, 120777, 1, -119817⟩, ⟨120778, 120778, 1, -119789⟩,
  ⟨120779, 120779, 1, -119790⟩, ⟨120782, 120791, 1, -120734⟩, ⟨120792, 120801, 1, -120744⟩,
  ⟨120802, 120811, 1, -120754⟩, ⟨120812, 120821, 1, -120764⟩, ⟨120822, 120831, 1, -120774⟩,
  ⟨122928, 122936, 1, -121856⟩, ⟨122937, 122939, 1, -121855⟩, ⟨122940, 122950, 1, -121854⟩,
  ⟨122951, 122951, 1, -121852⟩, ⟨122952, 122953, 1, -121851⟩, ⟨122954, 122954, 1, -80321⟩,
  ⟨122955, 122955, 1, -121714⟩, ⟨122956, 122956, 1, -121846⟩, ⟨122957, 122957, 1, -121845⟩,
  ⟨122958, 122958, 1, -121701⟩, ⟨122959, 122959, 1, -121760⟩, ⟨122960, 122960, 1, -121729⟩,
  ⟨122961, 122969, 1, -121889⟩, ⟨122970, 122971, 1, -121888⟩, ⟨122972, 122973, 1, -121886⟩,
  ⟨122974, 122974, 1, -121885⟩, ⟨122975, 122980, 1, -121884⟩, ⟨122981, 122982, 1, -121883⟩,
  ⟨122983, 122983, 1, -121814⟩, ⟨122984, 122984, 1, -121874⟩, ⟨122985, 122985, 1, -121876⟩,
  ⟨122986, 122986, 1, -121867⟩, ⟨122987, 122987, 1, -121792⟩, ⟨122988, 122988, 1, -80411⟩,
  ⟨122989, 122989, 1, -121788⟩, ⟨125184, 125217, 1, 34⟩, ⟨126464, 126465, 1, -124889⟩,
  ⟨126466, 126466, 1, -124886⟩, ⟨126467, 126467, 1, -124884⟩, ⟨126469, 126469, 1, -124861⟩,
  ⟨126470, 126470, 1, -124884⟩, ⟨126471, 126471, 1, -124890⟩, ⟨126472, 126472, 1, -124881⟩,
  ⟨126473, 126473, 1, -124863⟩, ⟨126474, 126477, 1, -124871⟩, ⟨126478, 126478, 1, -124891⟩,
  ⟨126479, 126479, 1, -124886⟩, ⟨126480, 126480, 1, -124879⟩, ⟨126481, 126481, 1, -124892⟩,
  ⟨126482, 126482, 1, -124880⟩, ⟨126483, 126483, 1, -124898⟩, ⟨126484, 126484, 1, -124896⟩,
  ⟨126485, 126486, 1, -124907⟩, ⟨126487, 126487, 1, -124905⟩, ⟨126488, 126488, 1, -124904⟩,
  ⟨126489, 126489, 1, -124899⟩, ⟨126490, 126490, 1, -124898⟩, ⟨126491, 126491, 1, -124897⟩,
  ⟨126492, 126492, 1, -124846⟩, ⟨126493, 126493, 1, -124771⟩, ⟨126494, 126494, 1, -124797⟩,
  ⟨126495, 126495, 1, -124848⟩, ⟨126497, 126497, 1, -124921⟩, ⟨126498, 126498, 1, -124918⟩,
  ⟨126500, 126500, 1, -124893⟩, ⟨126503, 126503, 1, -124922⟩, ⟨126505, 126505, 1, -124895⟩,
  ⟨126506, 126509, 1, -124903⟩, ⟨126510, 126510, 1, -124923⟩, ⟨126511, 126511, 1, -124918⟩,
  ⟨126512, 126512, 1, -124911⟩, ⟨126513, 126513, 1, -124924⟩, ⟨126514, 126514, 1, -124912⟩,
  ⟨126516, 126516, 1, -124928⟩, ⟨126517, 126518, 1, -124939⟩, ⟨126519, 126519, 1, -124937⟩,
  ⟨126521, 126521, 1, -124931⟩, ⟨126523, 126523, 1, -124929⟩, ⟨126530, 126530, 1, -124950⟩,
  ⟨126535, 126535, 1, -124954⟩, ⟨126537, 126537, 1, -124927⟩, ⟨126539, 126541, 2, -124935⟩,
  ⟨126542, 126542, 1, -124955⟩, ⟨126543, 126543, 1, -124950⟩, ⟨126545, 126545, 1, -124956⟩,
  ⟨126546, 126546, 1, -124944⟩, ⟨126548, 126548, 1, -124960⟩, ⟨126551, 126551, 1, -124969⟩,
  ⟨126553, 126553, 1, -124963⟩, ⟨126555, 126555, 1, -124961⟩, ⟨126557, 126557, 1, -124835⟩,
  ⟨126559, 126559, 1, -124912⟩, ⟨126561, 126561, 1, -124985⟩, ⟨126562, 126562, 1, -124982⟩,
  ⟨126564, 126564, 1, -124957⟩, ⟨126567, 126567, 1, -124986⟩, ⟨126568, 126568, 1, -124977⟩,
  ⟨126569, 126569, 1, -124959⟩, ⟨126570, 126572, 2, -124967⟩, ⟨126573, 126573, 1, -124967⟩,
  ⟨126574, 126574, 1, -124987⟩, ⟨126575, 126575, 1, -124982⟩, ⟨126576, 126576, 1, -124975⟩,
  ⟨126577, 126577, 1, -124988⟩, ⟨126578, 126578, 1, -124976⟩, ⟨126580, 126580, 1, -124992⟩,
  ⟨126581, 126582, 1, -125003⟩, ⟨126583, 126583, 1, -125001⟩, ⟨126585, 126585, 1, -124995⟩,
  ⟨126586, 126586, 1, -124994⟩, ⟨126587, 126587, 1, -124993⟩, ⟨126588, 126588, 1, -124942⟩,
  ⟨126590, 126590, 1, -124893⟩, ⟨126592, 126593, 1, -125017⟩, ⟨126594, 126594, 1, -125014⟩,
  ⟨126595, 126595, 1, -125012⟩, ⟨126596, 126597, 1, -124989⟩, ⟨126598, 126598, 1, -125012⟩,
  ⟨126599, 126599, 1, -125018⟩, ⟨126600, 126600, 1, -125009⟩, ⟨126601, 126601, 1, -124991⟩,
  ⟨126603, 126605, 1, -124999⟩, ⟨126606, 126606, 1, -125019⟩, ⟨126607, 126607, 1, -125014⟩,
  ⟨126608, 126608, 1, -125007⟩, ⟨126609, 126609, 1, -125020⟩, ⟨126610, 126610, 1, -125008⟩,
  ⟨126611, 126611, 1, -125026⟩, ⟨126612, 126612, 1, -125024⟩, ⟨126613, 126614, 1, -125035⟩,
  ⟨126615, 126615, 1, -125033⟩, ⟨126616, 126616, 1, -125032⟩, ⟨126617, 126617, 1, -125027⟩,
  ⟨126618, 126618, 1, -125026⟩, ⟨126619, 126619, 1, -125025⟩, ⟨126625, 126625, 1, -125049⟩,
  ⟨126626, 126626, 1, -125046⟩, ⟨126627, 126627, 1, -125044⟩, ⟨126629, 126629, 1, -125021⟩,
  ⟨126630, 126630, 1, -125044⟩, ⟨126631, 126631, 1, -125050⟩, ⟨126632, 126632, 1, -125041⟩,
  ⟨126633, 126633, 1, -125023⟩, ⟨126635, 126637, 1, -125031⟩, ⟨126638, 126638, 1, -125051⟩,
  ⟨126639, 126639, 1, -125046⟩, ⟨126640, 126640, 1, -125039⟩, ⟨126641, 126641, 1, -125052⟩,
  ⟨126642, 126642, 1, -125040⟩, ⟨126643, 126643, 1, -125058⟩, ⟨126644, 126644, 1, -125056⟩,
  ⟨126645, 126646, 1, -125067⟩, ⟨126647, 126647, 1, -125065⟩, ⟨126648, 126648, 1, -125064⟩,
  ⟨126649, 126649, 1, -125059⟩, ⟨126650, 126650, 1, -125058⟩, ⟨126651, 126651, 1, -125057⟩,
  ⟨127275, 127275, 1, -127176⟩, ⟨127276, 127276, 1, -127162⟩, ⟨127280, 127305, 1, -127183⟩,
  ⟨127490, 127490, 1, -115021⟩, ⟨127504, 127504, 1, -102341⟩, ⟨127505, 127505, 1, -104122⟩,
  ⟨127506, 127506, 1, -106054⟩, ⟨127507, 127507, 1, -115020⟩, ⟨127508, 127508, 1, -107400⟩,
  ⟨127509, 127509, 1, -104699⟩, ⟨127510, 127510, 1, -92211⟩, ⟨127511, 127511, 1, -104686⟩,
  ⟨127512, 127512, 1, -107380⟩, ⟨127513, 127513, 1, -101369⟩, ⟨127514, 127514, 1, -98553⟩,
  ⟨127515, 127515, 1, -101506⟩, ⟨127516, 127516, 1, -106447⟩, ⟨127517, 127517, 1, -103057⟩,
  ⟨127518, 127518, 1, -106641⟩, ⟨127519, 127519, 1, -101487⟩, ⟨127520, 127520, 1, -106499⟩,
  ⟨127521, 127521, 1, -95455⟩, ⟨127522, 127522, 1, -97539⟩, ⟨127523, 127523, 1, -91514⟩,
  ⟨127524, 127524, 1, -104756⟩, ⟨127525, 127525, 1, -105964⟩, ⟨127526, 127526, 1, -99090⟩,
  ⟨127527, 127527, 1, -102290⟩, ⟨127528, 127528, 1, -102099⟩, ⟨127529, 127529, 1, -107561⟩,
  ⟨127530, 127530, 1, -107553⟩, ⟨127531, 127531, 1, -90593⟩, ⟨127532, 127532, 1, -103494⟩,
  ⟨127533, 127533, 1, -107520⟩, ⟨127534, 127534, 1, -106043⟩, ⟨127535, 127535, 1, -102184⟩,
  ⟨127536, 127536, 1, -91328⟩, ⟨127537, 127537, 1, -102366⟩, ⟨127538, 127538, 1, -96433⟩,
  ⟨127539, 127539, 1, -96185⟩, ⟨127540, 127540, 1, -106028⟩, ⟨127541, 127541, 1, -99253⟩,
  ⟨127542, 127542, 1, -101165⟩, ⟨127543, 127543, 1, -101167⟩, ⟨127544, 127544, 1, -97541⟩,
  ⟨127545, 127545, 1, -106439⟩, ⟨127546, 127546, 1, -105604⟩, ⟨127547, 127547, 1, -90350⟩,
  ⟨127568, 127568, 1, -103097⟩, ⟨127569, 127569, 1, -106082⟩, ⟨130032, 130041, 1, -129984⟩,
  ⟨194560, 194560, 1, -174531⟩, ⟨194561, 194561, 1, -174537⟩, ⟨194562, 194562, 1, -174529⟩,
  ⟨194563, 194563, 1, -63201⟩, ⟨194564, 194564, 1, -174244⟩, ⟨194565, 194565, 1, -174167⟩,
  ⟨194566, 194566, 1, -174155⟩, ⟨194567, 194567, 1, -174085⟩, ⟨194568, 194568, 1, -173966⟩,
  ⟨194569, 194569, 1, -173936⟩, ⟨194570, 194570, 1, -173859⟩, ⟨194571, 194571, 1, -173884⟩,
  ⟨194572, 194572, 1, -181102⟩, ⟨194573, 194573, 1, -61907⟩, ⟨194574, 194574, 1, -173761⟩,
  ⟨194575, 194575, 1, -173755⟩, ⟨194576, 194576, 1, -173740⟩, ⟨194577, 194577, 1, -173722⟩,
  ⟨194578, 194578, 1, -62198⟩, ⟨194579, 194579, 1, -181082⟩, ⟨194580, 194580, 1, -173741⟩,
  ⟨194581, 194581, 1, -173704⟩, ⟨194582, 194582, 1, -62155⟩, ⟨194583, 194583, 1, -173696⟩,
  ⟨194584, 194584, 1, -173684⟩, ⟨194585, 194585, 1, -174413⟩, ⟨194586, 194586, 1, -173678⟩,
  ⟨194587, 194587, 1, -173670⟩, ⟨194588, 194588, 1, -26173⟩, ⟨194589, 194589, 1, -173608⟩,
  ⟨194590, 194590, 1, -173595⟩, ⟨194591, 194591, 1, -181056⟩, ⟨194592, 194592, 1, -173541⟩,
  ⟨194593, 194593, 1, -173531⟩, ⟨194594, 194594, 1, -173488⟩, ⟨194595, 194595, 1, -173484⟩,
  ⟨194596, 194596, 1, -181007⟩, ⟨194597, 194597, 1, -173406⟩, ⟨194598, 194598, 1, -173405⟩,
  ⟨194599, 194599, 1, -173379⟩, ⟨194600, 194600, 1, -173358⟩, ⟨194601, 194602, 1, -173348⟩,
  ⟨194603, 194603, 1, -173332⟩, ⟨194604, 194604, 1, -173283⟩, ⟨194605, 194605, 1, -173276⟩,
  ⟨194606, 194606, 1, -173268⟩, ⟨194607, 194607, 1, -173244⟩, ⟨194608, 194608, 1, -173235⟩,
  ⟨194609, 194609, 1, -173234⟩, ⟨194610, 194610, 1, -173235⟩, ⟨194611, 194611, 1, -173236⟩,
  ⟨194612, 194612, 1, -60936⟩, ⟨194613, 194613, 1, -165829⟩, ⟨194614, 194614, 1, -173164⟩,
  ⟨194615, 194615, 1, -173144⟩, ⟨194616, 194616, 1, -60629⟩, ⟨194617, 194617, 1, -173134⟩,
  ⟨194618, 194618, 1, -173129⟩, ⟨194619, 194619, 1, -173109⟩, ⟨194620, 194620, 1, -172958⟩,
  ⟨194621, 194621, 1, -173061⟩, ⟨194622, 194622, 1, -173046⟩, ⟨194623, 194623, 1, -173015⟩,
  ⟨194624, 194624, 1, -172958⟩, ⟨194625, 194625, 1, -172875⟩, ⟨194626, 194626, 1, -172850⟩,
  ⟨194627, 194627, 1, -172784⟩, ⟨194628, 194628, 1, -172769⟩, ⟨194629, 194629, 1, -172737⟩,
  ⟨194630, 194630, 1, -172738⟩, ⟨194631, 194631, 1, -172718⟩, ⟨194632, 194632, 1, -172701⟩,
  ⟨194633, 194633, 1, -172694⟩, ⟨194634, 194634, 1, -172680⟩, ⟨194635, 194635, 1, -172341⟩,
  ⟨194636, 194636, 1, -172614⟩, ⟨194637, 194637, 1, -172342⟩, ⟨194638, 194638, 1, -172541⟩,
  ⟨194639, 194639, 1, -172507⟩, ⟨194640, 194640, 1, -173641⟩, ⟨194641, 194641, 1, -171875⟩,
  ⟨194642, 194642, 1, -172164⟩, ⟨194643, 194643, 1, -172127⟩, ⟨194644, 194644, 1, -172103⟩,
  ⟨194645, 194645, 1, -172234⟩, ⟨194646, 194646, 1, -172068⟩, ⟨194647, 194647, 1, -172070⟩,
  ⟨194648, 194648, 1, -171948⟩, ⟨194649, 194649, 1, -58229⟩, ⟨194650, 194650, 1, -171880⟩,
  ⟨194651, 194651, 1, -171876⟩, ⟨194652, 194652, 1, -171862⟩, ⟨194653, 194653, 1, -171843⟩,
  ⟨194654, 194654, 1, -171836⟩, ⟨194655, 194655, 1, -171773⟩, ⟨194656, 194656, 1, -57784⟩,
  ⟨194657, 194657, 1, -57719⟩, ⟨194658, 194658, 1, -171638⟩, ⟨194659, 194659, 1, -171592⟩,
  ⟨194660, 194660, 1, -171581⟩, ⟨194661, 194661, 1, -171661⟩, ⟨194662, 194662, 1, -171520⟩,
  ⟨194663, 194663, 1, -180601⟩, ⟨194664, 194664, 1, -180588⟩, ⟨194665, 194665, 1, -171361⟩,
  ⟨194666, 194666, 1, -171308⟩, ⟨194667, 194667, 1, -171309⟩, ⟨194668, 194668, 1, -56996⟩,
  ⟨194669, 194669, 1, -171178⟩, ⟨194670, 194670, 1, -171158⟩, ⟨194671, 194671, 1, -171144⟩,
  ⟨194672, 194672, 1, -171133⟩, ⟨194673, 194673, 1, -56665⟩, ⟨194674, 194674, 1, -171123⟩,
  ⟨194675, 194675, 1, -171117⟩, ⟨194676, 194676, 1, -170273⟩, ⟨194677, 194677, 1, -171091⟩,
  ⟨194678, 194678, 1, -180469⟩, ⟨194679, 194679, 1, -171031⟩, ⟨194680, 194680, 1, -171018⟩,
  ⟨194681, 194681, 1, -170937⟩, ⟨194682, 194682, 1, -170989⟩, ⟨194683, 194683, 1, -55959⟩,
  ⟨194684, 194684, 1, -170809⟩, ⟨194685, 194685, 1, -55959⟩, ⟨194686, 194686, 1, -170768⟩,
  ⟨194687, 194687, 1, -170772⟩, ⟨194688, 194688, 1, -170756⟩, ⟨194689, 194690, 1, -170656⟩,
  ⟨194691, 194691, 1, -180308⟩, ⟨194692, 194692, 1, -170631⟩, ⟨194693, 194693, 1, -170589⟩,
  ⟨194694, 194694, 1, -170569⟩, ⟨194695, 194695, 1, -170526⟩, ⟨194696, 194696, 1, -180262⟩,
  ⟨194697, 194697, 1, -55046⟩, ⟨194698, 194698, 1, -180238⟩, ⟨194699, 194699, 1, -170459⟩,
  ⟨194700, 194700, 1, -170457⟩, ⟨194701, 194701, 1, -170455⟩, ⟨194702, 194702, 1, -170436⟩,
  ⟨194703, 194703, 1, -21757⟩, ⟨194704, 194704, 1, -170386⟩, ⟨194705, 194705, 1, -54624⟩,
  ⟨194706, 194706, 1, -54625⟩, ⟨194707, 194707, 1, -161426⟩, ⟨194708, 194708, 1, -170354⟩,
  ⟨194709, 194709, 1, -170355⟩, ⟨194710, 194710, 1, -180175⟩, ⟨194711, 194711, 1, -50655⟩,
  ⟨194712, 194712, 1, -38590⟩, ⟨194713, 194713, 1, -170295⟩, ⟨194714, 194714, 1, -170287⟩,
  ⟨194715, 194715, 1, -180152⟩, ⟨194716, 194716, 1, -170242⟩, ⟨194717, 194717, 1, -170192⟩,
  ⟨194718, 194718, 1, -170183⟩, ⟨194719, 194719, 1, -170150⟩, ⟨194720, 194720, 1, -170015⟩,
  ⟨194721, 194721, 1, -180071⟩, ⟨194722, 194722, 1, -180102⟩, ⟨194723, 194723, 1, -169999⟩,
  ⟨194724, 194724, 1, -53712⟩, ⟨194725, 194725, 1, -169950⟩, ⟨194726, 194726, 1, -169822⟩,
  ⟨194727, 194727, 1, -169819⟩, ⟨194728, 194728, 1, -169818⟩, ⟨194729, 194729, 1, -169821⟩,
  ⟨194730, 194730, 1, -169776⟩, ⟨194731, 194731, 1, -169757⟩, ⟨194732, 194732, 1, -169722⟩,
  ⟨194733, 194733, 1, -169737⟩, ⟨194734, 194734, 1, -169727⟩, ⟨194735, 194735, 1, -169681⟩,
  ⟨194736, 194736, 1, -169662⟩, ⟨194737, 194737, 1, -169659⟩, ⟨194738, 194738, 1, -169634⟩,
  ⟨194739, 194739, 1, -169624⟩, ⟨194740, 194740, 1, -169559⟩, ⟨194741, 194741, 1, -169476⟩,
  ⟨194742, 194742, 1, -169442⟩, ⟨194743, 194743, 1, -169319⟩, ⟨194744, 194744, 1, -52652⟩,
  ⟨194745, 194745, 1, -169340⟩, ⟨194746, 194746, 1, -169406⟩, ⟨194747, 194747, 1, -169299⟩,
  ⟨194748, 194748, 1, -169273⟩, ⟨194749, 194749, 1, -169177⟩, ⟨194750, 194750, 1, -52429⟩,
  ⟨194751, 194751, 1, -169117⟩, ⟨194752, 194752, 1, -169211⟩, ⟨194753, 194753, 1, -169240⟩,
  ⟨194754, 194754, 1, -179860⟩, ⟨194755, 194755, 1, -169050⟩, ⟨194756, 194756, 1, -169030⟩,
  ⟨194757, 194757, 1, -169000⟩, ⟨194758, 194758, 1, -169039⟩, ⟨194759, 194759, 1, -179803⟩,
  ⟨194760, 194760, 1, -168825⟩, ⟨194761, 194761, 1, -168797⟩, ⟨194762, 194762, 1, -51392⟩,
  ⟨194763, 194763, 1, -168680⟩, ⟨194764, 194764, 1, -168404⟩, ⟨194765, 194765, 1, -168580⟩,
  ⟨194766, 194766, 1, -179637⟩, ⟨194767, 194767, 1, -168510⟩, ⟨194768, 194768, 1, -179656⟩,
  ⟨194769, 194769, 1, -179693⟩, ⟨194770, 194770, 1, -173888⟩, ⟨194771, 194771, 1, -173886⟩,
  ⟨194772, 194772, 1, -168404⟩, ⟨194773, 194773, 1, -168505⟩, ⟨194774, 194774, 1, -161833⟩,
  ⟨194775, 194775, 1, -177406⟩, ⟨194776, 194776, 1, -168385⟩, ⟨194777, 194777, 1, -168382⟩,
  ⟨194778, 194778, 1, -168377⟩, ⟨194779, 194779, 1, -168317⟩, ⟨194780, 194780, 1, -168329⟩,
  ⟨194781, 194781, 1, -50458⟩, ⟨194782, 194782, 1, -179605⟩, ⟨194783, 194783, 1, -168165⟩,
  ⟨194784, 194784, 1, -168283⟩, ⟨194785, 194785, 1, -168079⟩, ⟨194786, 194786, 1, -168029⟩,
  ⟨194787, 194787, 1, -50294⟩, ⟨194788, 194788, 1, -168022⟩, ⟨194789, 194789, 1, -168134⟩,
  ⟨194790, 194790, 1, -167890⟩, ⟨194791, 194791, 1, -179530⟩, ⟨194792, 194792, 1, -167846⟩,
  ⟨194793, 194793, 1, -167750⟩, ⟨194794, 194794, 1, -167680⟩, ⟨194795, 194795, 1, -167491⟩,
  ⟨194796, 194796, 1, -49737⟩, ⟨194797, 194797, 1, -167442⟩, ⟨194798, 194798, 1, -179414⟩,
  ⟨194799, 194799, 1, -167374⟩, ⟨194800, 194800, 1, -49225⟩, ⟨194801, 194801, 1, -167325⟩,
  ⟨194802, 194802, 1, -179364⟩, ⟨194803, 194803, 1, -167297⟩, ⟨194804, 194804, 1, -167253⟩,
  ⟨194805, 194806, 1, -167227⟩, ⟨194807, 194807, 1, -48746⟩, ⟨194808, 194808, 1, -56301⟩,
  ⟨194809, 194809, 1, -48639⟩, ⟨194810, 194810, 1, -167084⟩, ⟨194811, 194811, 1, -48191⟩,
  ⟨194812, 194812, 1, -166973⟩, ⟨194813, 194813, 1, -166960⟩, ⟨194814, 194814, 1, -167063⟩,
  ⟨194815, 194815, 1, -166889⟩, ⟨194816, 194816, 1, -166850⟩, ⟨194817, 194817, 1, -166794⟩,
  ⟨194818, 194818, 1, -166849⟩, ⟨194819, 194819, 1, -166810⟩, ⟨194820, 194820, 1, -166796⟩,
  ⟨194821, 194821, 1, -166784⟩, ⟨194822, 194822, 1, -48104⟩, ⟨194823, 194823, 1, -166867⟩,
  ⟨194824, 194824, 1, -166617⟩, ⟨194825, 194825, 1, -166555⟩, ⟨194826, 194826, 1, -179159⟩,
  ⟨194827, 194827, 1, -166464⟩, ⟨194828, 194828, 1, -166469⟩, ⟨194829, 194829, 1, -47676⟩,
  ⟨194830, 194830, 1, -166677⟩, ⟨194831, 194831, 1, -166305⟩, ⟨194832, 194832, 1, -47538⟩,
  ⟨194833, 194833, 1, -47491⟩, ⟨194834, 194834, 1, -166220⟩, ⟨194835, 194835, 1, -166106⟩,
  ⟨194836, 194836, 1, -166134⟩, ⟨194837, 194837, 1, -166138⟩, ⟨194838, 194838, 1, -179072⟩,
  ⟨194839, 194839, 1, -166093⟩, ⟨194840, 194840, 1, -166043⟩, ⟨194841, 194841, 1, -166050⟩,
  ⟨194842, 194842, 1, -165997⟩, ⟨194843, 194843, 1, -62454⟩, ⟨194844, 194844, 1, -165847⟩,
  ⟨194845, 194845, 1, -46778⟩, ⟨194846, 194846, 1, -165762⟩, ⟨194847, 194847, 1, -46452⟩,
  ⟨194848, 194848, 1, -165624⟩, ⟨194849, 194849, 1, -165612⟩, ⟨194850, 194850, 1, -165586⟩,
  ⟨194851, 194851, 1, -45851⟩, ⟨194852, 194852, 1, -165540⟩, ⟨194853, 194853, 1, -165520⟩,
  ⟨194854, 194854, 1, -45553⟩, ⟨194855, 194855, 1, -45331⟩, ⟨194856, 194856, 1, -165294⟩,
  ⟨194857, 194857, 1, -165278⟩, ⟨194858, 194858, 1, -178814⟩, ⟨194859, 194859, 1, -165254⟩,
  ⟨194860, 194860, 1, -178804⟩, ⟨194861, 194861, 1, -178805⟩, ⟨194862, 194862, 1, -165095⟩,
  ⟨194863, 194863, 1, -165075⟩, ⟨194864, 194864, 1, -165055⟩, ⟨194865, 194865, 1, -165036⟩,
  ⟨194866, 194866, 1, -164968⟩, ⟨194867, 194867, 1, -178712⟩, ⟨194868, 194868, 1, -164880⟩,
  ⟨194869, 194869, 1, -44287⟩, ⟨194870, 194870, 1, -164856⟩, ⟨194871, 194871, 1, -44197⟩,
  ⟨194872, 194872, 1, -164808⟩, ⟨194873, 194873, 1, -55194⟩, ⟨194874, 194874, 1, -164650⟩,
  ⟨194875, 194875, 1, -43418⟩, ⟨194876, 194876, 1, -43396⟩, ⟨194877, 194877, 1, -43257⟩,
  ⟨194878, 194878, 1, -178498⟩, ⟨194879, 194879, 1, -178487⟩, ⟨194880, 194880, 1, -164428⟩,
  ⟨194881, 194881, 1, -43086⟩, ⟨194882, 194882, 1, -43088⟩, ⟨194883, 194883, 1, -43050⟩,
  ⟨194884, 194884, 1, -43025⟩, ⟨194885, 194886, 1, -164391⟩, ⟨194887, 194887, 1, -164392⟩,
  ⟨194888, 194888, 1, -164350⟩, ⟨194889, 194889, 1, -178448⟩, ⟨194890, 194890, 1, -164287⟩,
  ⟨194891, 194891, 1, -178437⟩, ⟨194892, 194892, 1, -178358⟩, ⟨194893, 194893, 1, -42288⟩,
  ⟨194894, 194894, 1, -164096⟩, ⟨194895, 194895, 1, -164035⟩, ⟨194896, 194896, 1, -163972⟩,
  ⟨194897, 194897, 1, -178286⟩, ⟨194898, 194898, 1, -41772⟩, ⟨194899, 194899, 1, -163837⟩,
  ⟨194900, 194900, 1, -41658⟩, ⟨194901, 194901, 1, -41616⟩, ⟨194902, 194902, 1, -163783⟩,
  ⟨194903, 194903, 1, -163692⟩, ⟨194904, 194904, 1, -178217⟩, ⟨194905, 194905, 1, -163609⟩,
  ⟨194906, 194906, 1, -163600⟩, ⟨194907, 194907, 1, -163596⟩, ⟨194908, 194908, 1, -40928⟩,
  ⟨194909, 194909, 1, -40630⟩, ⟨194910, 194910, 1, -40631⟩, ⟨194911, 194911, 1, -163441⟩,
  ⟨194912, 194912, 1, -178014⟩, ⟨194913, 194913, 1, -40374⟩, ⟨194914, 194914, 1, -163228⟩,
  ⟨194915, 194915, 1, -163226⟩, ⟨194916, 194916, 1, -177981⟩, ⟨194917, 194917, 1, -40165⟩,
  ⟨194918, 194918, 1, -162964⟩, ⟨194919, 194919, 1, -177863⟩, ⟨194920, 194920, 1, -162944⟩,
  ⟨194921, 194921, 1, -162950⟩, ⟨194922, 194922, 1, -162922⟩, ⟨194923, 194923, 1, -39397⟩,
  ⟨194924, 194924, 1, -162825⟩, ⟨194925, 194925, 1, -177772⟩, ⟨194926, 194926, 1, -162727⟩,
  ⟨194927, 194927, 1, -162669⟩, ⟨194928, 194928, 1, -162603⟩, ⟨194929, 194929, 1, -177725⟩,
  ⟨194930, 194930, 1, -38730⟩, ⟨194931, 194931, 1, -38700⟩, ⟨194932, 194932, 1, -177691⟩,
  ⟨194933, 194933, 1, -38556⟩, ⟨194934, 194934, 1, -162300⟩, ⟨194935, 194935, 1, -38457⟩,
  ⟨194936, 194936, 1, -162275⟩, ⟨194937, 194937, 1, -162175⟩, ⟨194938, 194938, 1, -162165⟩,
  ⟨194939, 194939, 1, -38049⟩, ⟨194940, 194940, 1, -37977⟩, ⟨194941, 194941, 1, -162077⟩,
  ⟨194942, 194942, 1, -37846⟩, ⟨194943, 194943, 1, -162063⟩, ⟨194944, 194944, 1, -50721⟩,
  ⟨194945, 194945, 1, -177580⟩, ⟨194946, 194946, 1, -162000⟩, ⟨194947, 194947, 1, -161920⟩,
  ⟨194948, 194948, 1, -177529⟩, ⟨194949, 194949, 1, -161863⟩, ⟨194950, 194950, 1, -171729⟩,
  ⟨194951, 194951, 1, -37344⟩, ⟨194952, 194952, 1, -37331⟩, ⟨194953, 194953, 1, -50678⟩,
  ⟨194954, 194954, 1, -50670⟩, ⟨194955, 194955, 1, -161674⟩, ⟨194956, 194956, 1, -161672⟩,
  ⟨194957, 194957, 1, -158191⟩, ⟨194958, 194958, 1, -177443⟩, ⟨194959, 194959, 1, -161534⟩,
  ⟨194960, 194960, 1, -161541⟩, ⟨194961, 194961, 1, -161524⟩, ⟨194962, 194962, 1, -173791⟩,
  ⟨194963, 194963, 1, -161506⟩, ⟨194964, 194964, 1, -161505⟩, ⟨194965, 194965, 1, -161496⟩,
  ⟨194966, 194966, 1, -161456⟩, ⟨194967, 194967, 1, -36443⟩, ⟨194968, 194968, 1, -161459⟩,
  ⟨194969, 194969, 1, -161404⟩, ⟨194970, 194970, 1, -161335⟩, ⟨194971, 194971, 1, -161262⟩,
  ⟨194972, 194972, 1, -161401⟩, ⟨194973, 194973, 1, -161248⟩, ⟨194974, 194974, 1, -161207⟩,
  ⟨194975, 194975, 1, -161096⟩, ⟨194976, 194976, 1, -161357⟩, ⟨194977, 194977, 1, -161239⟩,
  ⟨194978, 194978, 1, -161238⟩, ⟨194979, 194979, 1, -161223⟩, ⟨194980, 194980, 1, -36206⟩,
  ⟨194981, 194981, 1, -35898⟩, ⟨194982, 194982, 1, -36049⟩, ⟨194983, 194983, 1, -177276⟩,
  ⟨194984, 194984, 1, -160951⟩, ⟨194985, 194985, 1, -160950⟩, ⟨194986, 194986, 1, -160916⟩,
  ⟨194987, 194987, 1, -34273⟩, ⟨194988, 194988, 1, -160840⟩, ⟨194989, 194989, 1, -35457⟩,
  ⟨194990, 194990, 1, -177233⟩, ⟨194991, 194991, 1, -177230⟩, ⟨194992, 194992, 1, -35327⟩,
  ⟨194993, 194993, 1, -35039⟩, ⟨194994, 194994, 1, -177223⟩, ⟨194995, 194995, 1, -160611⟩,
  ⟨194996, 194996, 1, -160600⟩, ⟨194997, 194997, 1, -160590⟩, ⟨194998, 194998, 1, -160589⟩,
  ⟨194999, 194999, 1, -160526⟩, ⟨195000, 195000, 1, -160560⟩, ⟨195001, 195001, 1, -160427⟩,
  ⟨195002, 195002, 1, -160472⟩, ⟨195003, 195003, 1, -160322⟩, ⟨195004, 195004, 1, -160404⟩,
  ⟨195005, 195005, 1, -160338⟩, ⟨195006, 195006, 1, -160312⟩, ⟨195007, 195007, 1, -177128⟩,
  ⟨195008, 195008, 1, -160223⟩, ⟨195009, 195009, 1, -160192⟩, ⟨195010, 195010, 1, -177097⟩,
  ⟨195011, 195011, 1, -160099⟩, ⟨195012, 195012, 1, -160097⟩, ⟨195013, 195013, 1, -33630⟩,
  ⟨195014, 195014, 1, -159983⟩, ⟨195015, 195015, 1, -159977⟩, ⟨195016, 195016, 1, -177043⟩,
  ⟨195017, 195017, 1, -159951⟩, ⟨195018, 195018, 1, -181519⟩, ⟨195019, 195019, 1, -33053⟩,
  ⟨195020, 195020, 1, -32870⟩, ⟨195021, 195021, 1, -176911⟩, ⟨195022, 195022, 1, -176903⟩,
  ⟨195023, 195023, 1, -159535⟩, ⟨195024, 195024, 1, -159459⟩, ⟨195025, 195025, 1, -159303⟩,
  ⟨195026, 195026, 1, -159101⟩, ⟨195027, 195027, 1, -32043⟩, ⟨195028, 195028, 1, -159017⟩,
  ⟨195029, 195029, 1, -158996⟩, ⟨195030, 195030, 1, -158907⟩, ⟨195031, 195031, 1, -158816⟩,
  ⟨195032, 195032, 1, -31401⟩, ⟨195033, 195033, 1, -61909⟩, ⟨195034, 195034, 1, -158735⟩,
  ⟨195035, 195035, 1, -158751⟩, ⟨195036, 195036, 1, -158700⟩, ⟨195037, 195037, 1, -61695⟩,
  ⟨195038, 195038, 1, -158474⟩, ⟨195039, 195039, 1, -158375⟩, ⟨195040, 195040, 1, -29710⟩,
  ⟨195041, 195041, 1, -29684⟩, ⟨195042, 195042, 1, -158030⟩, ⟨195043, 195043, 1, -157938⟩,
  ⟨195044, 195044, 1, -157907⟩, ⟨195045, 195045, 1, -29367⟩, ⟨195046, 195046, 1, -157899⟩,
  ⟨195047, 195047, 1, -157615⟩, ⟨195048, 195049, 1, -157457⟩, ⟨195050, 195050, 1, -157550⟩,
  ⟨195051, 195051, 1, -157170⟩, ⟨195052, 195052, 1, -157143⟩, ⟨195053, 195053, 1, -28147⟩,
  ⟨195054, 195054, 1, -156771⟩, ⟨195055, 195055, 1, -176218⟩, ⟨195056, 195056, 1, -156729⟩,
  ⟨195057, 195057, 1, -27770⟩, ⟨195058, 195058, 1, -176140⟩, ⟨195059, 195059, 1, -156464⟩,
  ⟨195060, 195060, 1, -171074⟩, ⟨195061, 195061, 1, -156370⟩, ⟨195062, 195062, 1, -26801⟩,
  ⟨195063, 195063, 1, -26589⟩, ⟨195064, 195064, 1, -176010⟩, ⟨195065, 195065, 1, -176003⟩,
  ⟨195066, 195066, 1, -156186⟩, ⟨195067, 195067, 1, -26097⟩, ⟨195068, 195068, 1, -175946⟩,
  ⟨195069, 195069, 1, -25959⟩, ⟨195070, 195070, 1, -156147⟩, ⟨195071, 195071, 1, -156148⟩,
  ⟨195072, 195072, 1, -156119⟩, ⟨195073, 195073, 1, -25675⟩, ⟨195074, 195074, 1, -155936⟩,
  ⟨195075, 195075, 1, -175824⟩, ⟨195076, 195076, 1, -155867⟩, ⟨195077, 195077, 1, -155742⟩,
  ⟨195078, 195078, 1, -155716⟩, ⟨195079, 195079, 1, -155657⟩, ⟨195080, 195080, 1, -175674⟩,
  ⟨195081, 195081, 1, -24281⟩, ⟨195082, 195082, 1, -155384⟩, ⟨195083, 195083, 1, -155083⟩,
  ⟨195084, 195084, 1, -154895⟩, ⟨195085, 195085, 1, -175423⟩, ⟨195086, 195086, 1, -175393⟩,
  ⟨195087, 195087, 1, -154792⟩, ⟨195088, 195088, 1, -22850⟩, ⟨195089, 195089, 1, -175385⟩,
  ⟨195090, 195090, 1, -22797⟩, ⟨195091, 195091, 1, -22533⟩, ⟨195092, 195092, 1, -22403⟩,
  ⟨195093, 195093, 1, -154458⟩, ⟨195094, 195094, 1, -175296⟩, ⟨195095, 195095, 1, -154398⟩,
  ⟨195096, 195096, 1, -154394⟩, ⟨195097, 195097, 1, -154388⟩, ⟨195098, 195098, 1, -154379⟩,
  ⟨195099, 195099, 1, -154373⟩, ⟨195100, 195100, 1, -154337⟩, ⟨195101, 195101, 1, -21533⟩]

set_option maxRecDepth 100000 in
/-- The plain forms of several characters. -/
def longForms : List (Nat × List Nat) := [
  (168, [32, 776]), (175, [32, 772]), (180, [32, 769]), (184, [32, 807]), (188, [49, 8260, 52]),
  (189, [49, 8260, 50]), (190, [51, 8260, 52]), (304, [105, 775]), (306, [105, 106]),
  (307, [105, 106]), (319, [108, 183]), (320, [108, 183]), (329, [700, 110]), (452, [100, 382]),
  (453, [100, 382]), (454, [100, 382]), (455, [108, 106]), (456, [108, 106]), (457, [108, 106]),
  (458, [110, 106]), (459, [110, 106]), (460, [110, 106]), (497, [100, 122]), (498, [100, 122]),
  (499, [100, 122]), (728, [32, 774]), (729, [32, 775]), (730, [32, 778]), (731, [32, 808]),
  (732, [32, 771]), (733, [32, 779]), (836, [776, 769]), (890, [32, 953]), (900, [32, 769]),
  (901, [32, 776, 769]), (1415, [1381, 1410]), (1653, [1575, 1652]), (1654, [1608, 1652]),
  (1655, [1735, 1652]), (1656, [1610, 1652]), (2392, [2325, 2364]), (2393, [2326, 2364]),
  (2394, [2327, 2364]), (2395, [2332, 2364]), (2396, [2337, 2364]), (2397, [2338, 2364]),
  (2398, [2347, 2364]), (2399, [2351, 2364]), (2524, [2465, 2492]), (2525, [2466, 2492]),
  (2527, [2479, 2492]), (2611, [2610, 2620]), (2614, [2616, 2620]), (2649, [2582, 2620]),
  (2650, [2583, 2620]), (2651, [2588, 2620]), (2654, [2603, 2620]), (2908, [2849, 2876]),
  (2909, [2850, 2876]), (3635, [3661, 3634]), (3763, [3789, 3762]), (3804, [3755, 3737]),
  (3805, [3755, 3745]), (3907, [3906, 4023]), (3917, [3916, 4023]), (3922, [3921, 4023]),
  (3927, [3926, 4023]), (3932, [3931, 4023]), (3945, [3904, 4021]), (3955, [3953, 3954]),
  (3957, [3953, 3956]), (3958, [4018, 3968]), (3959, [4018, 3953, 3968]), (3960, [4019, 3968]),
  (3961, [4019, 3953, 3968]), (3969, [3953, 3968]), (3987, [3986, 4023]), (3997, [3996, 4023]),
  (4002, [4001, 4023]), (4007, [4006, 4023]), (4012, [4011, 4023]), (4025, [3984, 4021]),
  (7834, [97, 702]), (8064, [7936, 953]), (8065, [7937, 953]), (8066, [7938, 953]),
  (8067, [7939, 953]), (8068, [7940, 953]), (8069, [7941, 953]), (8070, [7942, 953]),
  (8071, [7943, 953]), (8072, [7936, 953]), (8073, [7937, 953]), (8074, [7938, 953]),
  (8075, [7939, 953]), (8076, [7940, 953]), (8077, [7941, 953]), (8078, [7942, 953]),
  (8079, [7943, 953]), (8080, [7968, 953]), (8081, [7969, 953]), (8082, [7970, 953]),
  (8083, [7971, 953]), (8084, [7972, 953]), (8085, [7973, 953]), (8086, [7974, 953]),
  (8087, [7975, 953]), (8088, [7968, 953]), (8089, [7969, 953]), (8090, [7970, 953]),
  (8091, [7971, 953]), (8092, [7972, 953]), (8093, [7973, 953]), (8094, [7974, 953]),
  (8095, [7975, 953]), (8096, [8032, 953]), (8097, [8033, 953]), (8098, [8034, 953]),
  (8099, [8035, 953]), (8100, [8036, 953]), (8101, [8037, 953]), (8102, [8038, 953]),
  (8103, [8039, 953]), (8104, [8032, 953]), (8105, [8033, 953]), (8106, [8034, 953]),
  (8107, [8035, 953]), (8108, [8036, 953]), (8109, [8037, 953]), (8110, [8038, 953]),
  (8111, [8039, 953]), (8114, [8048, 953]), (8115, [945, 953]), (8116, [940, 953]),
  (8119, [8118, 953]), (8124, [945, 953]), (8125, [32, 787]), (8127, [32, 787]),
  (8128, [32, 834]), (8129, [32, 776, 834]), (8130, [8052, 953]), (8131, [951, 953]),
  (8132, [942, 953]), (8135, [8134, 953]), (8140, [951, 953]), (8141, [32, 787, 768]),
  (8142, [32, 787, 769]), (8143, [32, 787, 834]), (8157, [32, 788, 768]), (8158, [32, 788, 769]),
  (8159, [32, 788, 834]), (8173, [32, 776, 768]), (8174, [32, 776, 769]), (8178, [8060, 953]),
  (8179, [969, 953]), (8180, [974, 953]), (8183, [8182, 953]), (8188, [969, 953]),
  (8189, [32, 769]), (8190, [32, 788]), (8215, [32, 819]), (8243, [8242, 8242]),
  (8244, [8242, 8242, 8242]), (8246, [8245, 8245]), (8247, [8245, 8245, 8245]), (8252, [33, 33]),
  (8254, [32, 773]), (8263, [63, 63]), (8264, [63, 33]), (8265, [33, 63]),
  (8279, [8242, 8242, 8242, 8242]), (8360, [114, 115]), (8448, [97, 47, 99]),
  (8449, [97, 47, 115]), (8451, [176, 99]), (8453, [99, 47, 111]), (8454, [99, 47, 117]),
  (8457, [176, 102]), (8470, [110, 111]), (8480, [115, 109]), (8481, [116, 101, 108]),
  (8482, [116, 109]), (8507, [102, 97, 120]), (8528, [49, 8260, 55]), (8529, [49, 8260, 57]),
  (8530, [49, 8260, 49, 48]), (8531, [49, 8260, 51]), (8532, [50, 8260, 51]),
  (8533, [49, 8260, 53]), (8534, [50, 8260, 53]), (8535, [51, 8260, 53]), (8536, [52, 8260, 53]),
  (8537, [49, 8260, 54]), (8538, [53, 8260, 54]), (8539, [49, 8260, 56]), (8540, [51, 8260, 56]),
  (8541, [53, 8260, 56]), (8542, [55, 8260, 56]), (8543, [49, 8260]), (8545, [105, 105]),
  (8546, [105, 105, 105]), (8547, [105, 118]), (8549, [118, 105]), (8550, [118, 105, 105]),
  (8551, [118, 105, 105, 105]), (8552, [105, 120]), (8554, [120, 105]), (8555, [120, 105, 105]),
  (8561, [105, 105]), (8562, [105, 105, 105]), (8563, [105, 118]), (8565, [118, 105]),
  (8566, [118, 105, 105]), (8567, [118, 105, 105, 105]), (8568, [105, 120]), (8570, [120, 105]),
  (8571, [120, 105, 105]), (8585, [48, 8260, 51]), (8748, [8747, 8747]),
  (8749, [8747, 8747, 8747]), (8751, [8750, 8750]), (8752, [8750, 8750, 8750]), (9321, [49, 48]),
  (9322, [49, 49]), (9323, [49, 50]), (9324, [49, 51]), (9325, [49, 52]), (9326, [49, 53]),
  (9327, [49, 54]), (9328, [49, 55]), (9329, [49, 56]), (9330, [49, 57]), (9331, [50, 48]),
  (9332, [40, 49, 41]), (9333, [40, 50, 41]), (9334, [40, 51, 41]), (9335, [40, 52, 41]),
  (9336, [40, 53, 41]), (9337, [40, 54, 41]), (9338, [40, 55, 41]), (9339, [40, 56, 41]),
  (9340, [40, 57, 41]), (9341, [40, 49, 48, 41]), (9342, [40, 49, 49, 41]),
  (9343, [40, 49, 50, 41]), (9344, [40, 49, 51, 41]), (9345, [40, 49, 52, 41]),
  (9346, [40, 49, 53, 41]), (9347, [40, 49, 54, 41]), (9348, [40, 49, 55, 41]),
  (9349, [40, 49, 56, 41]), (9350, [40, 49, 57, 41]), (9351, [40, 50, 48, 41]),
  (9372, [40, 97, 41]), (9373, [40, 98, 41]), (9374, [40, 99, 41]), (9375, [40, 100, 41]),
  (9376, [40, 101, 41]), (9377, [40, 102, 41]), (9378, [40, 103, 41]), (9379, [40, 104, 41]),
  (9380, [40, 105, 41]), (9381, [40, 106, 41]), (9382, [40, 107, 41]), (9383, [40, 108, 41]),
  (9384, [40, 109, 41]), (9385, [40, 110, 41]), (9386, [40, 111, 41]), (9387, [40, 112, 41]),
  (9388, [40, 113, 41]), (9389, [40, 114, 41]), (9390, [40, 115, 41]), (9391, [40, 116, 41]),
  (9392, [40, 117, 41]), (9393, [40, 118, 41]), (9394, [40, 119, 41]), (9395, [40, 120, 41]),
  (9396, [40, 121, 41]), (9397, [40, 122, 41]), (10764, [8747, 8747, 8747, 8747]),
  (10868, [58, 58, 61]), (10869, [61, 61]), (10870, [61, 61, 61]), (10972, [10973, 824]),
  (12443, [32, 12441]), (12444, [32, 12442]), (12447, [12424, 12426]), (12543, [12467, 12488]),
  (12800, [40, 4352, 41]), (12801, [40, 4354, 41]), (12802, [40, 4355, 41]),
  (12803, [40, 4357, 41]), (12804, [40, 4358, 41]), (12805, [40, 4359, 41]),
  (12806, [40, 4361, 41]), (12807, [40, 4363, 41]), (12808, [40, 4364, 41]),
  (12809, [40, 4366, 41]), (12810, [40, 4367, 41]), (12811, [40, 4368, 41]),
  (12812, [40, 4369, 41]), (12813, [40, 4370, 41]), (12814, [40, 44032, 41]),
  (12815, [40, 45208, 41]), (12816, [40, 45796, 41]), (12817, [40, 46972, 41]),
  (12818, [40, 47560, 41]), (12819, [40, 48148, 41]), (12820, [40, 49324, 41]),
  (12821, [40, 50500, 41]), (12822, [40, 51088, 41]), (12823, [40, 52264, 41]),
  (12824, [40, 52852, 41]), (12825, [40, 53440, 41]), (12826, [40, 54028, 41]),
  (12827, [40, 54616, 41]), (12828, [40, 51452, 41]), (12829, [40, 50724, 51204, 41]),
  (12830, [40, 50724, 54980, 41]), (12832, [40, 19968, 41]), (12833, [40, 20108, 41]),
  (12834, [40, 19977, 41]), (12835, [40, 22235, 41]), (12836, [40, 20116, 41]),
  (12837, [40, 20845, 41]), (12838, [40, 19971, 41]), (12839, [40, 20843, 41]),
  (12840, [40, 20061, 41]), (12841, [40, 21313, 41]), (12842, [40, 26376, 41]),
  (12843, [40, 28779, 41]), (12844, [40, 27700, 41]), (12845, [40, 26408, 41]),
  (12846, [40, 37329, 41]), (12847, [40, 22303, 41]), (12848, [40, 26085, 41]),
  (12849, [40, 26666, 41]), (12850, [40, 26377, 41]), (12851, [40, 31038, 41]),
  (12852, [40, 21517, 41]), (12853, [40, 29305, 41]), (12854, [40, 36001, 41]),
  (12855, [40, 31069, 41]), (12856, [40, 21172, 41]), (12857, [40, 20195, 41]),
  (12858, [40, 21628, 41]), (12859, [40, 23398, 41]), (12860, [40, 30435, 41]),
  (12861, [40, 20225, 41]), (12862, [40, 36039, 41]), (12863, [40, 21332, 41]),
  (12864, [40, 31085, 41]), (12865, [40, 20241, 41]), (12866, [40, 33258, 41]),
  (12867, [40, 33267, 41]), (12880, [112, 116, 101]), (12881, [50, 49]), (12882, [50, 50]),
  (12883, [50, 51]), (12884, [50, 52]), (12885, [50, 53]), (12886, [50, 54]), (12887, [50, 55]),
  (12888, [50, 56]), (12889, [50, 57]), (12890, [51, 48]), (12891, [51, 49]), (12892, [51, 50]),
  (12893, [51, 51]), (12894, [51, 52]), (12895, [51, 53]), (12924, [52280, 44256]),
  (12925, [51452, 51032]), (12977, [51, 54]), (12978, [51, 55]), (12979, [51, 56]),
  (12980, [51, 57]), (12981, [52, 48]), (12982, [52, 49]), (12983, [52, 50]), (12984, [52, 51]),
  (12985, [52, 52]), (12986, [52, 53]), (12987, [52, 54]), (12988, [52, 55]), (12989, [52, 56]),
  (12990, [52, 57]), (12991, [53, 48]), (12992, [49, 26376]), (12993, [50, 26376]),
  (12994, [51, 26376]), (12995, [52, 26376]), (12996, [53, 26376]), (12997, [54, 26376]),
  (12998, [55, 26376]), (12999, [56, 26376]), (13000, [57, 26376]), (13001, [49, 48, 26376]),
  (13002, [49, 49, 26376]), (13003, [49, 50, 26376]), (13004, [104, 103]),
  (13005, [101, 114, 103]), (13006, [101, 118]), (13007, [108, 116, 100]),
  (13055, [20196, 21644]), (13056, [12450, 12497, 12540, 12488]),
  (13057, [12450, 12523, 12501, 12449]), (13058, [12450, 12531, 12506, 12450]),
  (13059, [12450, 12540, 12523]), (13060, [12452, 12491, 12531, 12464]),
  (13061, [12452, 12531, 12481]), (13062, [12454, 12457, 12531]),
  (13063, [12456, 12473, 12463, 12540, 12489]), (13064, [12456, 12540, 12459, 12540]),
  (13065, [12458, 12531, 12473]), (13066, [12458, 12540, 12512]), (13067, [12459, 12452, 12522]),
  (13068, [12459, 12521, 12483, 12488]), (13069, [12459, 12525, 12522, 12540]),
  (13070, [12460, 12525, 12531]), (13071, [12460, 12531, 12510]), (13072, [12462, 12460]),
  (13073, [12462, 12491, 12540]), (13074, [12461, 12517, 12522, 12540]),
  (13075, [12462, 12523, 12480, 12540]), (13076, [12461, 12525]),
  (13077, [12461, 12525, 12464, 12521, 12512]),
  (13078, [12461, 12525, 12513, 12540, 12488, 12523]),
  (13079, [12461, 12525, 12527, 12483, 12488]), (13080, [12464, 12521, 12512]),
  (13081, [12464, 12521, 12512, 12488, 12531]), (13082, [12463, 12523, 12476, 12452, 12525]),
  (13083, [12463, 12525, 12540, 12493]), (13084, [12465, 12540, 12473]),
  (13085, [12467, 12523, 12490]), (13086, [12467, 12540, 12509]),
  (13087, [12469, 12452, 12463, 12523]), (13088, [12469, 12531, 12481, 12540, 12512]),
  (13089, [12471, 12522, 12531, 12464]), (13090, [12475, 12531, 12481]),
  (13091, [12475, 12531, 12488]), (13092, [12480, 12540, 12473]), (13093, [12487, 12471]),
  (13094, [12489, 12523]), (13095, [12488, 12531]), (13096, [12490, 12494]),
  (13097, [12494, 12483, 12488]), (13098, [12495, 12452, 12484]),
  (13099, [12497, 12540, 12475, 12531, 12488]), (13100, [12497, 12540, 12484]),
  (13101, [12496, 12540, 12524, 12523]), (13102, [12500, 12450, 12473, 12488, 12523]),
  (13103, [12500, 12463, 12523]), (13104, [12500, 12467]), (13105, [12499, 12523]),
  (13106, [12501, 12449, 12521, 12483, 12489]), (13107, [12501, 12451, 12540, 12488]),
  (13108, [12502, 12483, 12471, 12455, 12523]), (13109, [12501, 12521, 12531]),
  (13110, [12504, 12463, 12479, 12540, 12523]), (13111, [12506, 12477]),
  (13112, [12506, 12491, 12498]), (13113, [12504, 12523, 12484]), (13114, [12506, 12531, 12473]),
  (13115, [12506, 12540, 12472]), (13116, [12505, 12540, 12479]),
  (13117, [12509, 12452, 12531, 12488]), (13118, [12508, 12523, 12488]), (13119, [12507, 12531]),
  (13120, [12509, 12531, 12489]), (13121, [12507, 12540, 12523]), (13122, [12507, 12540, 12531]),
  (13123, [12510, 12452, 12463, 12525]), (13124, [12510, 12452, 12523]),
  (13125, [12510, 12483, 12495]), (13126, [12510, 12523, 12463]),
  (13127, [12510, 12531, 12471, 12519, 12531]), (13128, [12511, 12463, 12525, 12531]),
  (13129, [12511, 12522]), (13130, [12511, 12522, 12496, 12540, 12523]), (13131, [12513, 12460]),
  (13132, [12513, 12460, 12488, 12531]), (13133, [12513, 12540, 12488, 12523]),
  (13134, [12516, 12540, 12489]), (13135, [12516, 12540, 12523]), (13136, [12518, 12450, 12531]),
  (13137, [12522, 12483, 12488, 12523]), (13138, [12522, 12521]), (13139, [12523, 12500, 12540]),
  (13140, [12523, 12540, 12502, 12523]), (13141, [12524, 12512]),
  (13142, [12524, 12531, 12488, 12466, 12531]), (13143, [12527, 12483, 12488]),
  (13144, [48, 28857]), (13145, [49, 28857]), (13146, [50, 28857]), (13147, [51, 28857]),
  (13148, [52, 28857]), (13149, [53, 28857]), (13150, [54, 28857]), (13151, [55, 28857]),
  (13152, [56, 28857]), (13153, [57, 28857]), (13154, [49, 48, 28857]), (13155, [49, 49, 28857]),
  (13156, [49, 50, 28857]), (13157, [49, 51, 28857]), (13158, [49, 52, 28857]),
  (13159, [49, 53, 28857]), (13160, [49, 54, 28857]), (13161, [49, 55, 28857]),
  (13162, [49, 56, 28857]), (13163, [49, 57, 28857]), (13164, [50, 48, 28857]),
  (13165, [50, 49, 28857]), (13166, [50, 50, 28857]), (13167, [50, 51, 28857]),
  (13168, [50, 52, 28857]), (13169, [104, 112, 97]), (13170, [100, 97]), (13171, [97, 117]),
  (13172, [98, 97, 114]), (13173, [111, 118]), (13174, [112, 99]), (13175, [100, 109]),
  (13176, [100, 109, 50]), (13177, [100, 109, 51]), (13178, [105, 117]), (13179, [24179, 25104]),
  (13180, [26157, 21644]), (13181, [22823, 27491]), (13182, [26126, 27835]),
  (13183, [26666, 24335, 20250, 31038]), (13184, [112, 97]), (13185, [110, 97]),
  (13186, [956, 97]), (13187, [109, 97]), (13188, [107, 97]), (13189, [107, 98]),
  (13190, [109, 98]), (13191, [103, 98]), (13192, [99, 97, 108]), (13193, [107, 99, 97, 108]),
  (13194, [112, 102]), (13195, [110, 102]), (13196, [956, 102]), (13197, [956, 103]),
  (13198, [109, 103]), (13199, [107, 103]), (13200, [104, 122]), (13201, [107, 104, 122]),
  (13202, [109, 104, 122]), (13203, [103, 104, 122]), (13204, [116, 104, 122]),
  (13205, [956, 108]), (13206, [109, 108]), (13207, [100, 108]), (13208, [107, 108]),
  (13209, [102, 109]), (13210, [110, 109]), (13211, [956, 109]), (13212, [109, 109]),
  (13213, [99, 109]), (13214, [107, 109]), (13215, [109, 109, 50]), (13216, [99, 109, 50]),
  (13217, [109, 50]), (13218, [107, 109, 50]), (13219, [109, 109, 51]), (13220, [99, 109, 51]),
  (13221, [109, 51]), (13222, [107, 109, 51]), (13223, [109, 8725, 115]),
  (13224, [109, 8725, 115, 50]), (13225, [112, 97]), (13226, [107, 112, 97]),
  (13227, [109, 112, 97]), (13228, [103, 112, 97]), (13229, [114, 97, 100]),
  (13230, [114, 97, 100, 8725, 115]), (13231, [114, 97, 100, 8725, 115, 50]), (13232, [112, 115]),
  (13233, [110, 115]), (13234, [956, 115]), (13235, [109, 115]), (13236, [112, 118]),
  (13237, [110, 118]), (13238, [956, 118]), (13239, [109, 118]), (13240, [107, 118]),
  (13241, [109, 118]), (13242, [112, 119]), (13243, [110, 119]), (13244, [956, 119]),
  (13245, [109, 119]), (13246, [107, 119]), (13247, [109, 119]), (13248, [107, 969]),
  (13249, [109, 969]), (13251, [98, 113]), (13252, [99, 99]), (13253, [99, 100]),
  (13254, [99, 8725, 107, 103]), (13256, [100, 98]), (13257, [103, 121]), (13258, [104, 97]),
  (13259, [104, 112]), (13260, [105, 110]), (13261, [107, 107]), (13262, [107, 109]),
  (13263, [107, 116]), (13264, [108, 109]), (13265, [108, 110]), (13266, [108, 111, 103]),
  (13267, [108, 120]), (13268, [109, 98]), (13269, [109, 105, 108]), (13270, [109, 111, 108]),
  (13271, [112, 104]), (13273, [112, 112, 109]), (13274, [112, 114]), (13275, [115, 114]),
  (13276, [115, 118]), (13277, [119, 98]), (13278, [118, 8725, 109]), (13279, [97, 8725, 109]),
  (13280, [49, 26085]), (13281, [50, 26085]), (13282, [51, 26085]), (13283, [52, 26085]),
  (13284, [53, 26085]), (13285, [54, 26085]), (13286, [55, 26085]), (13287, [56, 26085]),
  (13288, [57, 26085]), (13289, [49, 48, 26085]), (13290, [49, 49, 26085]),
  (13291, [49, 50, 26085]), (13292, [49, 51, 26085]), (13293, [49, 52, 26085]),
  (13294, [49, 53, 26085]), (13295, [49, 54, 26085]), (13296, [49, 55, 26085]),
  (13297, [49, 56, 26085]), (13298, [49, 57, 26085]), (13299, [50, 48, 26085]),
  (13300, [50, 49, 26085]), (13301, [50, 50, 26085]), (13302, [50, 51, 26085]),
  (13303, [50, 52, 26085]), (13304, [50, 53, 26085]), (13305, [50, 54, 26085]),
  (13306, [50, 55, 26085]), (13307, [50, 56, 26085]), (13308, [50, 57, 26085]),
  (13309, [51, 48, 26085]), (13310, [51, 49, 26085]), (13311, [103, 97, 108]),
  (64256, [102, 102]), (64257, [102, 105]), (64258, [102, 108]), (64259, [102, 102, 105]),
  (64260, [102, 102, 108]), (64261, [115, 116]), (64262, [115, 116]), (64275, [1396, 1398]),
  (64276, [1396, 1381]), (64277, [1396, 1387]), (64278, [1406, 1398]), (64279, [1396, 1389]),
  (64285, [1497, 1460]), (64287, [1522, 1463]), (64298, [1513, 1473]), (64299, [1513, 1474]),
  (64300, [1513, 1468, 1473]), (64301, [1513, 1468, 1474]), (64302, [1488, 1463]),
  (64303, [1488, 1464]), (64304, [1488, 1468]), (64305, [1489, 1468]), (64306, [1490, 1468]),
  (64307, [1491, 1468]), (64308, [1492, 1468]), (64309, [1493, 1468]), (64310, [1494, 1468]),
  (64312, [1496, 1468]), (64313, [1497, 1468]), (64314, [1498, 1468]), (64315, [1499, 1468]),
  (64316, [1500, 1468]), (64318, [1502, 1468]), (64320, [1504, 1468]), (64321, [1505, 1468]),
  (64323, [1507, 1468]), (64324, [1508, 1468]), (64326, [1510, 1468]), (64327, [1511, 1468]),
  (64328, [1512, 1468]), (64329, [1513, 1468]), (64330, [1514, 1468]), (64331, [1493, 1465]),
  (64332, [1489, 1471]), (64333, [1499, 1471]), (64334, [1508, 1471]), (64335, [1488, 1500]),
  (64477, [1735, 1652]), (64490, [1574, 1575]), (64491, [1574, 1575]), (64492, [1574, 1749]),
  (64493, [1574, 1749]), (64494, [1574, 1608]), (64495, [1574, 1608]), (64496, [1574, 1735]),
  (64497, [1574, 1735]), (64498, [1574, 1734]), (64499, [1574, 1734]), (64500, [1574, 1736]),
  (64501, [1574, 1736]), (64502, [1574, 1744]), (64503, [1574, 1744]), (64504, [1574, 1744]),
  (64505, [1574, 1609]), (64506, [1574, 1609]), (64507, [1574, 1609]), (64512, [1574, 1580]),
  (64513, [1574, 1581]), (64514, [1574, 1605]), (64515, [1574, 1609]), (64516, [1574, 1610]),
  (64517, [1576, 1580]), (64518, [1576, 1581]), (64519, [1576, 1582]), (64520, [1576, 1605]),
  (64521, [1576, 1609]), (64522, [1576, 1610]), (64523, [1578, 1580]), (64524, [1578, 1581]),
  (64525, [1578, 1582]), (64526, [1578, 1605]), (64527, [1578, 1609]), (64528, [1578, 1610]),
  (64529, [1579, 1580]), (64530, [1579, 1605]), (64531, [1579, 1609]), (64532, [1579, 1610]),
  (64533, [1580, 1581]), (64534, [1580, 1605]), (64535, [1581, 1580]), (64536, [1581, 1605]),
  (64537, [1582, 1580]), (64538, [1582, 1581]), (64539, [1582, 1605]), (64540, [1587, 1580]),
  (64541, [1587, 1581]), (64542, [1587, 1582]), (64543, [1587, 1605]), (64544, [1589, 1581]),
  (64545, [1589, 1605]), (64546, [1590, 1580]), (64547, [1590, 1581]), (64548, [1590, 1582]),
  (64549, [1590, 1605]), (64550, [1591, 1581]), (64551, [1591, 1605]), (64552, [1592, 1605]),
  (64553, [1593, 1580]), (64554, [1593, 1605]), (64555, [1594, 1580]), (64556, [1594, 1605]),
  (64557, [1601, 1580]), (64558, [1601, 1581]), (64559, [1601, 1582]), (64560, [1601, 1605]),
  (64561, [1601, 1609]), (64562, [1601, 1610]), (64563, [1602, 1581]), (64564, [1602, 1605]),
  (64565, [1602, 1609]), (64566, [1602, 1610]), (64567, [1603, 1575]), (64568, [1603, 1580]),
  (64569, [1603, 1581]), (64570, [1603, 1582]), (64571, [1603, 1604]), (64572, [1603, 1605]),
  (64573, [1603, 1609]), (64574, [1603, 1610]), (64575, [1604, 1580]), (64576, [1604, 1581]),
  (64577, [1604, 1582]), (64578, [1604, 1605]), (64579, [1604, 1609]), (64580, [1604, 1610]),
  (64581, [1605, 1580]), (64582, [1605, 1581]), (64583, [1605, 1582]), (64584, [1605, 1605]),
  (64585, [1605, 1609]), (64586, [1605, 1610]), (64587, [1606, 1580]), (64588, [1606, 1581]),
  (64589, [1606, 1582]), (64590, [1606, 1605]), (64591, [1606, 1609]), (64592, [1606, 1610]),
  (64593, [1607, 1580]), (64594, [1607, 1605]), (64595, [1607, 1609]), (64596, [1607, 1610]),
  (64597, [1610, 1580]), (64598, [1610, 1581]), (64599, [1610, 1582]), (64600, [1610, 1605]),
  (64601, [1610, 1609]), (64602, [1610, 1610]), (64603, [1584, 1648]), (64604, [1585, 1648]),
  (64605, [1609, 1648]), (64606, [32, 1612, 1617]), (64607, [32, 1613, 1617]),
  (64608, [32, 1614, 1617]), (64609, [32, 1615, 1617]), (64610, [32, 1616, 1617]),
  (64611, [32, 1617, 1648]), (64612, [1574, 1585]), (64613, [1574, 1586]), (64614, [1574, 1605]),
  (64615, [1574, 1606]), (64616, [1574, 1609]), (64617, [1574, 1610]), (64618, [1576, 1585]),
  (64619, [1576, 1586]), (64620, [1576, 1605]), (64621, [1576, 1606]), (64622, [1576, 1609]),
  (64623, [1576, 1610]), (64624, [1578, 1585]), (64625, [1578, 1586]), (64626, [1578, 1605]),
  (64627, [1578, 1606]), (64628, [1578, 1609]), (64629, [1578, 1610]), (64630, [1579, 1585]),
  (64631, [1579, 1586]), (64632, [1579, 1605]), (64633, [1579, 1606]), (64634, [1579, 1609]),
  (64635, [1579, 1610]), (64636, [1601, 1609]), (64637, [1601, 1610]), (64638, [1602, 1609]),
  (64639, [1602, 1610]), (64640, [1603, 1575]), (64641, [1603, 1604]), (64642, [1603, 1605]),
  (64643, [1603, 1609]), (64644, [1603, 1610]), (64645, [1604, 1605]), (64646, [1604, 1609]),
  (64647, [1604, 1610]), (64648, [1605, 1575]), (64649, [1605, 1605]), (64650, [1606, 1585]),
  (64651, [1606, 1586]), (64652, [1606, 1605]), (64653, [1606, 1606]), (64654, [1606, 1609]),
  (64655, [1606, 1610]), (64656, [1609, 1648]), (64657, [1610, 1585]), (64658, [1610, 1586]),
  (64659, [1610, 1605]), (64660, [1610, 1606]), (64661, [1610, 1609]), (64662, [1610, 1610]),
  (64663, [1574, 1580]), (64664, [1574, 1581]), (64665, [1574, 1582]), (64666, [1574, 1605]),
  (64667, [1574, 1607]), (64668, [1576, 1580]), (64669, [1576, 1581]), (64670, [1576, 1582]),
  (64671, [1576, 1605]), (64672, [1576, 1607]), (64673, [1578, 1580]), (64674, [1578, 1581]),
  (64675, [1578, 1582]), (64676, [1578, 1605]), (64677, [1578, 1607]), (64678, [1579, 1605]),
  (64679, [1580, 1581]), (64680, [1580, 1605]), (64681, [1581, 1580]), (64682, [1581, 1605]),
  (64683, [1582, 1580]), (64684, [1582, 1605]), (64685, [1587, 1580]), (64686, [1587, 1581]),
  (64687, [1587, 1582]), (64688, [1587, 1605]), (64689, [1589, 1581]), (64690, [1589, 1582]),
  (64691, [1589, 1605]), (64692, [1590, 1580]), (64693, [1590, 1581]), (64694, [1590, 1582]),
  (64695, [1590, 1605]), (64696, [1591, 1581]), (64697, [1592, 1605]), (64698, [1593, 1580]),
  (64699, [1593, 1605]), (64700, [1594, 1580]), (64701, [1594, 1605]), (64702, [1601, 1580]),
  (64703, [1601, 1581]), (64704, [1601, 1582]), (64705, [1601, 1605]), (64706, [1602, 1581]),
  (64707, [1602, 1605]), (64708, [1603, 1580]), (64709, [1603, 1581]), (64710, [1603, 1582]),
  (64711, [1603, 1604]), (64712, [1603, 1605]), (64713, [1604, 1580]), (64714, [1604, 1581]),
  (64715, [1604, 1582]), (64716, [1604, 1605]), (64717, [1604, 1607]), (64718, [1605, 1580]),
  (64719, [1605, 1581]), (64720, [1605, 1582]), (64721, [1605, 1605]), (64722, [1606, 1580]),
  (64723, [1606, 1581]), (64724, [1606, 1582]), (64725, [1606, 1605]), (64726, [1606, 1607]),
  (64727, [1607, 1580]), (64728, [1607, 1605]), (64729, [1607, 1648]), (64730, [1610, 1580]),
  (64731, [1610, 1581]), (64732, [1610, 1582]), (64733, [1610, 1605]), (64734, [1610, 1607]),
  (64735, [1574, 1605]), (64736, [1574, 1607]), (64737, [1576, 1605]), (64738, [1576, 1607]),
  (64739, [1578, 1605]), (64740, [1578, 1607]), (64741, [1579, 1605]), (64742, [1579, 1607]),
  (64743, [1587, 1605]), (64744, [1587, 1607]), (64745, [1588, 1605]), (64746, [1588, 1607]),
  (64747, [1603, 1604]), (64748, [1603, 1605]), (64749, [1604, 1605]), (64750, [1606, 1605]),
  (64751, [1606, 1607]), (64752, [1610, 1605]), (64753, [1610, 1607]),
  (64754, [1600, 1614, 1617]), (64755, [1600, 1615, 1617]), (64756, [1600, 1616, 1617]),
  (64757, [1591, 1609]), (64758, [1591, 1610]), (64759, [1593, 1609]), (64760, [1593, 1610]),
  (64761, [1594, 1609]), (64762, [1594, 1610]), (64763, [1587, 1609]), (64764, [1587, 1610]),
  (64765, [1588, 1609]), (64766, [1588, 1610]), (64767, [1581, 1609]), (64768, [1581, 1610]),
  (64769, [1580, 1609]), (64770, [1580, 1610]), (64771, [1582, 1609]), (64772, [1582, 1610]),
  (64773, [1589, 1609]), (64774, [1589, 1610]), (64775, [1590, 1609]), (64776, [1590, 1610]),
  (64777, [1588, 1580]), (64778, [1588, 1581]), (64779, [1588, 1582]), (64780, [1588, 1605]),
  (64781, [1588, 1585]), (64782, [1587, 1585]), (64783, [1589, 1585]), (64784, [1590, 1585]),
  (64785, [1591, 1609]), (64786, [1591, 1610]), (64787, [1593, 1609]), (64788, [1593, 1610]),
  (64789, [1594, 1609]), (64790, [1594, 1610]), (64791, [1587, 1609]), (64792, [1587, 1610]),
  (64793, [1588, 1609]), (64794, [1588, 1610]), (64795, [1581, 1609]), (64796, [1581, 1610]),
  (64797, [1580, 1609]), (64798, [1580, 1610]), (64799, [1582, 1609]), (64800, [1582, 1610]),
  (64801, [1589, 1609]), (64802, [1589, 1610]), (64803, [1590, 1609]), (64804, [1590, 1610]),
  (64805, [1588, 1580]), (64806, [1588, 1581]), (64807, [1588, 1582]), (64808, [1588, 1605]),
  (64809, [1588, 1585]), (64810, [1587, 1585]), (64811, [1589, 1585]), (64812, [1590, 1585]),
  (64813, [1588, 1580]), (64814, [1588, 1581]), (64815, [1588, 1582]), (64816, [1588, 1605]),
  (64817, [1587, 1607]), (64818, [1588, 1607]), (64819, [1591, 1605]), (64820, [1587, 1580]),
  (64821, [1587, 1581]), (64822, [1587, 1582]), (64823, [1588, 1580]), (64824, [1588, 1581]),
  (64825, [1588, 1582]), (64826, [1591, 1605]), (64827, [1592, 1605]), (64828, [1575, 1611]),
  (64829, [1575, 1611]), (64848, [1578, 1580, 1605]), (64849, [1578, 1581, 1580]),
  (64850, [1578, 1581, 1580]), (64851, [1578, 1581, 1605]), (64852, [1578, 1582, 1605]),
  (64853, [1578, 1605, 1580]), (64854, [1578, 1605, 1581]), (64855, [1578, 1605, 1582]),
  (64856, [1580, 1605, 1581]), (64857, [1580, 1605, 1581]), (64858, [1581, 1605, 1610]),
  (64859, [1581, 1605, 1609]), (64860, [1587, 1581, 1580]), (64861, [1587, 1580, 1581]),
  (64862, [1587, 1580, 1609]), (64863, [1587, 1605, 1581]), (64864, [1587, 1605, 1581]),
  (64865, [1587, 1605, 1580]), (64866, [1587, 1605, 1605]), (64867, [1587, 1605, 1605]),
  (64868, [1589, 1581, 1581]), (64869, [1589, 1581, 1581]), (64870, [1589, 1605, 1605]),
  (64871, [1588, 1581, 1605]), (64872, [1588, 1581, 1605]), (64873, [1588, 1580, 1610]),
  (64874, [1588, 1605, 1582]), (64875, [1588, 1605, 1582]), (64876, [1588, 1605, 1605]),
  (64877, [1588, 1605, 1605]), (64878, [1590, 1581, 1609]), (64879, [1590, 1582, 1605]),
  (64880, [1590, 1582, 1605]), (64881, [1591, 1605, 1581]), (64882, [1591, 1605, 1581]),
  (64883, [1591, 1605, 1605]), (64884, [1591, 1605, 1610]), (64885, [1593, 1580, 1605]),
  (64886, [1593, 1605, 1605]), (64887, [1593, 1605, 1605]), (64888, [1593, 1605, 1609]),
  (64889, [1594, 1605, 1605]), (64890, [1594, 1605, 1610]), (64891, [1594, 1605, 1609]),
  (64892, [1601, 1582, 1605]), (64893, [1601, 1582, 1605]), (64894, [1602, 1605, 1581]),
  (64895, [1602, 1605, 1605]), (64896, [1604, 1581, 1605]), (64897, [1604, 1581, 1610]),
  (64898, [1604, 1581, 1609]), (64899, [1604, 1580, 1580]), (64900, [1604, 1580, 1580]),
  (64901, [1604, 1582, 1605]), (64902, [1604, 1582, 1605]), (64903, [1604, 1605, 1581]),
  (64904, [1604, 1605, 1581]), (64905, [1605, 1581, 1580]), (64906, [1605, 1581, 1605]),
  (64907, [1605, 1581, 1610]), (64908, [1605, 1580, 1581]), (64909, [1605, 1580, 1605]),
  (64910, [1605, 1582, 1580]), (64911, [1605, 1582, 1605]), (64914, [1605, 1580, 1582]),
  (64915, [1607, 1605, 1580]), (64916, [1607, 1605, 1605]), (64917, [1606, 1581, 1605]),
  (64918, [1606, 1581, 1609]), (64919, [1606, 1580, 1605]), (64920, [1606, 1580, 1605]),
  (64921, [1606, 1580, 1609]), (64922, [1606, 1605, 1610]), (64923, [1606, 1605, 1609]),
  (64924, [1610, 1605, 1605]), (64925, [1610, 1605, 1605]), (64926, [1576, 1582, 1610]),
  (64927, [1578, 1580, 1610]), (64928, [1578, 1580, 1609]), (64929, [1578, 1582, 1610]),
  (64930, [1578, 1582, 1609]), (64931, [1578, 1605, 1610]), (64932, [1578, 1605, 1609]),
  (64933, [1580, 1605, 1610]), (64934, [1580, 1581, 1609]), (64935, [1580, 1605, 1609]),
  (64936, [1587, 1582, 1609]), (64937, [1589, 1581, 1610]), (64938, [1588, 1581, 1610]),
  (64939, [1590, 1581, 1610]), (64940, [1604, 1580, 1610]), (64941, [1604, 1605, 1610]),
  (64942, [1610, 1581, 1610]), (64943, [1610, 1580, 1610]), (64944, [1610, 1605, 1610]),
  (64945, [1605, 1605, 1610]), (64946, [1602, 1605, 1610]), (64947, [1606, 1581, 1610]),
  (64948, [1602, 1605, 1581]), (64949, [1604, 1581, 1605]), (64950, [1593, 1605, 1610]),
  (64951, [1603, 1605, 1610]), (64952, [1606, 1580, 1581]), (64953, [1605, 1582, 1610]),
  (64954, [1604, 1580, 1605]), (64955, [1603, 1605, 1605]), (64956, [1604, 1580, 1605]),
  (64957, [1606, 1580, 1581]), (64958, [1580, 1581, 1610]), (64959, [1581, 1580, 1610]),
  (64960, [1605, 1580, 1610]), (64961, [1601, 1605, 1610]), (64962, [1576, 1581, 1610]),
  (64963, [1603, 1605, 1605]), (64964, [1593, 1580, 1605]), (64965, [1589, 1605, 1605]),
  (64966, [1587, 1582, 1610]), (64967, [1606, 1580, 1610]), (65008, [1589, 1604, 1746]),
  (65009, [1602, 1604, 1746]), (65010, [1575, 1604, 1604, 1607]),
  (65011, [1575, 1603, 1576, 1585]), (65012, [1605, 1581, 1605, 1583]),
  (65013, [1589, 1604, 1593, 1605]), (65014, [1585, 1587, 1608, 1604]),
  (65015, [1593, 1604, 1610, 1607]), (65016, [1608, 1587, 1604, 1605]),
  (65017, [1589, 1604, 1609]),
  (65018, [1589, 1604, 1609, 32, 1575, 1604, 1604, 1607, 32, 1593, 1604, 1610, 1607, 32, 1608, 1587, 1604, 1605]),
  (65019, [1580, 1604, 32, 1580, 1604, 1575, 1604, 1607]), (65020, [1585, 1740, 1575, 1604]),
  (65097, [32, 773]), (65098, [32, 773]), (65099, [32, 773]), (65100, [32, 773]),
  (65136, [32, 1611]), (65137, [1600, 1611]), (65138, [32, 1612]), (65140, [32, 1613]),
  (65142, [32, 1614]), (65143, [1600, 1614]), (65144, [32, 1615]), (65145, [1600, 1615]),
  (65146, [32, 1616]), (65147, [1600, 1616]), (65148, [32, 1617]), (65149, [1600, 1617]),
  (65150, [32, 1618]), (65151, [1600, 1618]), (65269, [1604, 1570]), (65270, [1604, 1570]),
  (65271, [1604, 1571]), (65272, [1604, 1571]), (65273, [1604, 1573]), (65274, [1604, 1573]),
  (65275, [1604, 1575]), (65276, [1604, 1575]), (65507, [32, 772]), (119134, [119127, 119141]),
  (119135, [119128, 119141]), (119136, [119128, 119141, 119150]),
  (119137, [119128, 119141, 119151]), (119138, [119128, 119141, 119152]),
  (119139, [119128, 119141, 119153]), (119140, [119128, 119141, 119154]),
  (119227, [119225, 119141]), (119228, [119226, 119141]), (119229, [119225, 119141, 119150]),
  (119230, [119226, 119141, 119150]), (119231, [119225, 119141, 119151]),
  (119232, [119226, 119141, 119151]), (127233, [48, 44]), (127234, [49, 44]), (127235, [50, 44]),
  (127236, [51, 44]), (127237, [52, 44]), (127238, [53, 44]), (127239, [54, 44]),
  (127240, [55, 44]), (127241, [56, 44]), (127242, [57, 44]), (127248, [40, 97, 41]),
  (127249, [40, 98, 41]), (127250, [40, 99, 41]), (127251, [40, 100, 41]),
  (127252, [40, 101, 41]), (127253, [40, 102, 41]), (127254, [40, 103, 41]),
  (127255, [40, 104, 41]), (127256, [40, 105, 41]), (127257, [40, 106, 41]),
  (127258, [40, 107, 41]), (127259, [40, 108, 41]), (127260, [40, 109, 41]),
  (127261, [40, 110, 41]), (127262, [40, 111, 41]), (127263, [40, 112, 41]),
  (127264, [40, 113, 41]), (127265, [40, 114, 41]), (127266, [40, 115, 41]),
  (127267, [40, 116, 41]), (127268, [40, 117, 41]), (127269, [40, 118, 41]),
  (127270, [40, 119, 41]), (127271, [40, 120, 41]), (127272, [40, 121, 41]),
  (127273, [40, 122, 41]), (127274, [12308, 115, 12309]), (127277, [99, 100]),
  (127278, [119, 122]), (127306, [104, 118]), (127307, [109, 118]), (127308, [115, 100]),
  (127309, [115, 115]), (127310, [112, 112, 118]), (127311, [119, 99]), (127338, [109, 99]),
  (127339, [109, 100]), (127340, [109, 114]), (127376, [100, 106]), (127488, [12411, 12363]),
  (127489, [12467, 12467]), (127552, [12308, 26412, 12309]), (127553, [12308, 19977, 12309]),
  (127554, [12308, 20108, 12309]), (127555, [12308, 23433, 12309]),
  (127556, [12308, 28857, 12309]), (127557, [12308, 25171, 12309]),
  (127558, [12308, 30423, 12309]), (127559, [12308, 21213, 12309]),
  (127560, [12308, 25943, 12309])]

set_option maxRecDepth 100000 in
/-- The characters that may not stand in a name. -/
def forbiddenRanges : List CodeRange := [
  ⟨128, 159⟩, ⟨888, 889⟩, ⟨896, 899⟩, ⟨907, 907⟩, ⟨909, 909⟩, ⟨930, 930⟩, ⟨1328, 1328⟩,
  ⟨1367, 1368⟩, ⟨1419, 1420⟩, ⟨1424, 1424⟩, ⟨1480, 1487⟩, ⟨1515, 1518⟩, ⟨1525, 1541⟩,
  ⟨1564, 1564⟩, ⟨1757, 1757⟩, ⟨1806, 1807⟩, ⟨1867, 1868⟩, ⟨1970, 1983⟩, ⟨2043, 2044⟩,
  ⟨2094, 2095⟩, ⟨2111, 2111⟩, ⟨2140, 2141⟩, ⟨2143, 2143⟩, ⟨2155, 2159⟩, ⟨2192, 2198⟩,
  ⟨2274, 2274⟩, ⟨2436, 2436⟩, ⟨2445, 2446⟩, ⟨2449, 2450⟩, ⟨2473, 2473⟩, ⟨2481, 2481⟩,
  ⟨2483, 2485⟩, ⟨2490, 2491⟩, ⟨2501, 2502⟩, ⟨2505, 2506⟩, ⟨2511, 2518⟩, ⟨2520, 2523⟩,
  ⟨2526, 2526⟩, ⟨2532, 2533⟩, ⟨2559, 2560⟩, ⟨2564, 2564⟩, ⟨2571, 2574⟩, ⟨2577, 2578⟩,
  ⟨2601, 2601⟩, ⟨2609, 2609⟩, ⟨2612, 2612⟩, ⟨2615, 2615⟩, ⟨2618, 2619⟩, ⟨2621, 2621⟩,
  ⟨2627, 2630⟩, ⟨2633, 2634⟩, ⟨2638, 2640⟩, ⟨2642, 2648⟩, ⟨2653, 2653⟩, ⟨2655, 2661⟩,
  ⟨2679, 2688⟩, ⟨2692, 2692⟩, ⟨2702, 2702⟩, ⟨2706, 2706⟩, ⟨2729, 2729⟩, ⟨2737, 2737⟩,
  ⟨2740, 2740⟩, ⟨2746, 2747⟩, ⟨2758, 2758⟩, ⟨2762, 2762⟩, ⟨2766, 2767⟩, ⟨2769, 2783⟩,
  ⟨2788, 2789⟩, ⟨2802, 2808⟩, ⟨2816, 2816⟩, ⟨2820, 2820⟩, ⟨2829, 2830⟩, ⟨2833, 2834⟩,
  ⟨2857, 2857⟩, ⟨2865, 2865⟩, ⟨2868, 2868⟩, ⟨2874, 2875⟩, ⟨2885, 2886⟩, ⟨2889, 2890⟩,
  ⟨2894, 2900⟩, ⟨2904, 2907⟩, ⟨2910, 2910⟩, ⟨2916, 2917⟩, ⟨2936, 2945⟩, ⟨2948, 2948⟩,
  ⟨2955, 2957⟩, ⟨2961, 2961⟩, ⟨2966, 2968⟩, ⟨2971, 2971⟩, ⟨2973, 2973⟩, ⟨2976, 2978⟩,
  ⟨2981, 2983⟩, ⟨2987, 2989⟩, ⟨3002, 3005⟩, ⟨3011, 3013⟩, ⟨3017, 3017⟩, ⟨3022, 3023⟩,
  ⟨3025, 3030⟩, ⟨3032, 3045⟩, ⟨3067, 3071⟩, ⟨3085, 3085⟩, ⟨3089, 3089⟩, ⟨3113, 3113⟩,
  ⟨3130, 3131⟩, ⟨3141, 3141⟩, ⟨3145, 3145⟩, ⟨3150, 3156⟩, ⟨3159, 3159⟩, ⟨3163, 3163⟩,
  ⟨3166, 3167⟩, ⟨3172, 3173⟩, ⟨3184, 3190⟩, ⟨3213, 3213⟩, ⟨3217, 3217⟩, ⟨3241, 3241⟩,
  ⟨3252, 3252⟩, ⟨3258, 3259⟩, ⟨3269, 3269⟩, ⟨3273, 3273⟩, ⟨3278, 3284⟩, ⟨3287, 3291⟩,
  ⟨3295, 3295⟩, ⟨3300, 3301⟩, ⟨3312, 3312⟩, ⟨3316, 3327⟩, ⟨3341, 3341⟩, ⟨3345, 3345⟩,
  ⟨3397, 3397⟩, ⟨3401, 3401⟩, ⟨3408, 3411⟩, ⟨3428, 3429⟩, ⟨3456, 3456⟩, ⟨3460, 3460⟩,
  ⟨3479, 3481⟩, ⟨3506, 3506⟩, ⟨3516, 3516⟩, ⟨3518, 3519⟩, ⟨3527, 3529⟩, ⟨3531, 3534⟩,
  ⟨3541, 3541⟩, ⟨3543, 3543⟩, ⟨3552, 3557⟩, ⟨3568, 3569⟩, ⟨3573, 3584⟩, ⟨3643, 3646⟩,
  ⟨3676, 3712⟩, ⟨3715, 3715⟩, ⟨3717, 3717⟩, ⟨3723, 3723⟩, ⟨3748, 3748⟩, ⟨3750, 3750⟩,
  ⟨3774, 3775⟩, ⟨3781, 3781⟩, ⟨3783, 3783⟩, ⟨3791, 3791⟩, ⟨3802, 3803⟩, ⟨3808, 3839⟩,
  ⟨3912, 3912⟩, ⟨3949, 3952⟩, ⟨3992, 3992⟩, ⟨4029, 4029⟩, ⟨4045, 4045⟩, ⟨4059, 4095⟩,
  ⟨4294, 4294⟩, ⟨4296, 4300⟩, ⟨4302, 4303⟩, ⟨4681, 4681⟩, ⟨4686, 4687⟩, ⟨4695, 4695⟩,
  ⟨4697, 4697⟩, ⟨4702, 4703⟩, ⟨4745, 4745⟩, ⟨4750, 4751⟩, ⟨4785, 4785⟩, ⟨4790, 4791⟩,
  ⟨4799, 4799⟩, ⟨4801, 4801⟩, ⟨4806, 4807⟩, ⟨4823, 4823⟩, ⟨4881, 4881⟩, ⟨4886, 4887⟩,
  ⟨4955, 4956⟩, ⟨4989, 4991⟩, ⟨5018, 5023⟩, ⟨5110, 5111⟩, ⟨5118, 5119⟩, ⟨5760, 5760⟩,
  ⟨5789, 5791⟩, ⟨5881, 5887⟩, ⟨5910, 5918⟩, ⟨5943, 5951⟩, ⟨5972, 5983⟩, ⟨5997, 5997⟩,
  ⟨6001, 6001⟩, ⟨6004, 6015⟩, ⟨6110, 6111⟩, ⟨6122, 6127⟩, ⟨6138, 6143⟩, ⟨6170, 6175⟩,
  ⟨6265, 6271⟩, ⟨6315, 6319⟩, ⟨6390, 6399⟩, ⟨6431, 6431⟩, ⟨6444, 6447⟩, ⟨6460, 6463⟩,
  ⟨6465, 6467⟩, ⟨6510, 6511⟩, ⟨6517, 6527⟩, ⟨6572, 6575⟩, ⟨6602, 6607⟩, ⟨6619, 6621⟩,
  ⟨6684, 6685⟩, ⟨6751, 6751⟩, ⟨6781, 6782⟩, ⟨6794, 6799⟩, ⟨6810, 6815⟩, ⟨6830, 6831⟩,
  ⟨6878, 6879⟩, ⟨6892, 6911⟩, ⟨6989, 6989⟩, ⟨7156, 7163⟩, ⟨7224, 7226⟩, ⟨7242, 7244⟩,
  ⟨7307, 7311⟩, ⟨7355, 7356⟩, ⟨7368, 7375⟩, ⟨7419, 7423⟩, ⟨7958, 7959⟩, ⟨7966, 7967⟩,
  ⟨8006, 8007⟩, ⟨8014, 8015⟩, ⟨8024, 8024⟩, ⟨8026, 8026⟩, ⟨8028, 8028⟩, ⟨8030, 8030⟩,
  ⟨8062, 8063⟩, ⟨8117, 8117⟩, ⟨8133, 8133⟩, ⟨8148, 8149⟩, ⟨8156, 8156⟩, ⟨8176, 8177⟩,
  ⟨8181, 8181⟩, ⟨8191, 8191⟩, ⟨8206, 8207⟩, ⟨8228, 8230⟩, ⟨8232, 8238⟩, ⟨8293, 8297⟩,
  ⟨8306, 8307⟩, ⟨8335, 8335⟩, ⟨8349, 8351⟩, ⟨8386, 8399⟩, ⟨8433, 8447⟩, ⟨8588, 8591⟩,
  ⟨9258, 9279⟩, ⟨9291, 9311⟩, ⟨9352, 9371⟩, ⟨11124, 11125⟩, ⟨11508, 11512⟩, ⟨11558, 11558⟩,
  ⟨11560, 11564⟩, ⟨11566, 11567⟩, ⟨11624, 11630⟩, ⟨11633, 11646⟩, ⟨11671, 11679⟩, ⟨11687, 11687⟩,
  ⟨11695, 11695⟩, ⟨11703, 11703⟩, ⟨11711, 11711⟩, ⟨11719, 11719⟩, ⟨11727, 11727⟩, ⟨11735, 11735⟩,
  ⟨11743, 11743⟩, ⟨11870, 11903⟩, ⟨11930, 11930⟩, ⟨12020, 12031⟩, ⟨12246, 12287⟩, ⟨12352, 12352⟩,
  ⟨12439, 12440⟩, ⟨12544, 12548⟩, ⟨12592, 12592⟩, ⟨12687, 12687⟩, ⟨12774, 12783⟩, ⟨12831, 12831⟩,
  ⟨13250, 13250⟩, ⟨13255, 13255⟩, ⟨13272, 13272⟩, ⟨42125, 42127⟩, ⟨42183, 42191⟩, ⟨42540, 42559⟩,
  ⟨42744, 42751⟩, ⟨42973, 42992⟩, ⟨43053, 43055⟩, ⟨43066, 43071⟩, ⟨43128, 43135⟩, ⟨43206, 43213⟩,
  ⟨43226, 43231⟩, ⟨43348, 43358⟩, ⟨43389, 43391⟩, ⟨43470, 43470⟩, ⟨43482, 43485⟩, ⟨43519, 43519⟩,
  ⟨43575, 43583⟩, ⟨43598, 43599⟩, ⟨43610, 43611⟩, ⟨43715, 43738⟩, ⟨43767, 43776⟩, ⟨43783, 43784⟩,
  ⟨43791, 43792⟩, ⟨43799, 43807⟩, ⟨43815, 43815⟩, ⟨43823, 43823⟩, ⟨43884, 43887⟩, ⟨44014, 44015⟩,
  ⟨44026, 44031⟩, ⟨55204, 55215⟩, ⟨55239, 55242⟩, ⟨55292, 63743⟩, ⟨64110, 64111⟩, ⟨64218, 64255⟩,
  ⟨64263, 64274⟩, ⟨64280, 64284⟩, ⟨64311, 64311⟩, ⟨64317, 64317⟩, ⟨64319, 64319⟩, ⟨64322, 64322⟩,
  ⟨64325, 64325⟩, ⟨64976, 65007⟩, ⟨65042, 65042⟩, ⟨65049, 65055⟩, ⟨65072, 65072⟩, ⟨65106, 65107⟩,
  ⟨65127, 65127⟩, ⟨65132, 65135⟩, ⟨65141, 65141⟩, ⟨65277, 65278⟩, ⟨65280, 65280⟩, ⟨65471, 65473⟩,
  ⟨65480, 65481⟩, ⟨65488, 65489⟩, ⟨65496, 65497⟩, ⟨65501, 65503⟩, ⟨65511, 65511⟩, ⟨65519, 65535⟩,
  ⟨65548, 65548⟩, ⟨65575, 65575⟩, ⟨65595, 65595⟩, ⟨65598, 65598⟩, ⟨65614, 65615⟩, ⟨65630, 65663⟩,
  ⟨65787, 65791⟩, ⟨65795, 65798⟩, ⟨65844, 65846⟩, ⟨65935, 65935⟩, ⟨65949, 65951⟩, ⟨65953, 65999⟩,
  ⟨66046, 66175⟩, ⟨66205, 66207⟩, ⟨66257, 66271⟩, ⟨66300, 66303⟩, ⟨66340, 66348⟩, ⟨66379, 66383⟩,
  ⟨66427, 66431⟩, ⟨66462, 66462⟩, ⟨66500, 66503⟩, ⟨66518, 66559⟩, ⟨66718, 66719⟩, ⟨66730, 66735⟩,
  ⟨66772, 66775⟩, ⟨66812, 66815⟩, ⟨66856, 66863⟩, ⟨66916, 66926⟩, ⟨66939, 66939⟩, ⟨66955, 66955⟩,
  ⟨66963, 66963⟩, ⟨66966, 66966⟩, ⟨66978, 66978⟩, ⟨66994, 66994⟩, ⟨67002, 67002⟩, ⟨67005, 67007⟩,
  ⟨67060, 67071⟩, ⟨67383, 67391⟩, ⟨67414, 67423⟩, ⟨67432, 67455⟩, ⟨67462, 67462⟩, ⟨67505, 67505⟩,
  ⟨67515, 67583⟩, ⟨67590, 67591⟩, ⟨67593, 67593⟩, ⟨67638, 67638⟩, ⟨67641, 67643⟩, ⟨67645, 67646⟩,
  ⟨67670, 67670⟩, ⟨67743, 67750⟩, ⟨67760, 67807⟩, ⟨67827, 67827⟩, ⟨67830, 67834⟩, ⟨67868, 67870⟩,
  ⟨67898, 67902⟩, ⟨67930, 67967⟩, ⟨68024, 68027⟩, ⟨68048, 68049⟩, ⟨68100, 68100⟩, ⟨68103, 68107⟩,
  ⟨68116, 68116⟩, ⟨68120, 68120⟩, ⟨68150, 68151⟩, ⟨68155, 68158⟩, ⟨68169, 68175⟩, ⟨68185, 68191⟩,
  ⟨68256, 68287⟩, ⟨68327, 68330⟩, ⟨68343, 68351⟩, ⟨68406, 68408⟩, ⟨68438, 68439⟩, ⟨68467, 68471⟩,
  ⟨68498, 68504⟩, ⟨68509, 68520⟩, ⟨68528, 68607⟩, ⟨68681, 68735⟩, ⟨68787, 68799⟩, ⟨68851, 68857⟩,
  ⟨68904, 68911⟩, ⟨68922, 68927⟩, ⟨68966, 68968⟩, ⟨68998, 69005⟩, ⟨69008, 69215⟩, ⟨69247, 69247⟩,
  ⟨69290, 69290⟩, ⟨69294, 69295⟩, ⟨69298, 69313⟩, ⟨69320, 69327⟩, ⟨69337, 69369⟩, ⟨69416, 69423⟩,
  ⟨69466, 69487⟩, ⟨69514, 69551⟩, ⟨69580, 69599⟩, ⟨69623, 69631⟩, ⟨69710, 69713⟩, ⟨69750, 69758⟩,
  ⟨69821, 69821⟩, ⟨69827, 69839⟩, ⟨69865, 69871⟩, ⟨69882, 69887⟩, ⟨69941, 69941⟩, ⟨69960, 69967⟩,
  ⟨70007, 70015⟩, ⟨70112, 70112⟩, ⟨70133, 70143⟩, ⟨70162, 70162⟩, ⟨70210, 70271⟩, ⟨70279, 70279⟩,
  ⟨70281, 70281⟩, ⟨70286, 70286⟩, ⟨70302, 70302⟩, ⟨70314, 70319⟩, ⟨70379, 70383⟩, ⟨70394, 70399⟩,
  ⟨70404, 70404⟩, ⟨70413, 70414⟩, ⟨70417, 70418⟩, ⟨70441, 70441⟩, ⟨70449, 70449⟩, ⟨70452, 70452⟩,
  ⟨70458, 70458⟩, ⟨70469, 70470⟩, ⟨70473, 70474⟩, ⟨70478, 70479⟩, ⟨70481, 70486⟩, ⟨70488, 70492⟩,
  ⟨70500, 70501⟩, ⟨70509, 70511⟩, ⟨70517, 70527⟩, ⟨70538, 70538⟩, ⟨70540, 70541⟩, ⟨70543, 70543⟩,
  ⟨70582, 70582⟩, ⟨70593, 70593⟩, ⟨70595, 70596⟩, ⟨70598, 70598⟩, ⟨70603, 70603⟩, ⟨70614, 70614⟩,
  ⟨70617, 70624⟩, ⟨70627, 70655⟩, ⟨70748, 70748⟩, ⟨70754, 70783⟩, ⟨70856, 70863⟩, ⟨70874, 71039⟩,
  ⟨71094, 71095⟩, ⟨71134, 71167⟩, ⟨71237, 71247⟩, ⟨71258, 71263⟩, ⟨71277, 71295⟩, ⟨71354, 71359⟩,
  ⟨71370, 71375⟩, ⟨71396, 71423⟩, ⟨71451, 71452⟩, ⟨71468, 71471⟩, ⟨71495, 71679⟩, ⟨71740, 71839⟩,
  ⟨71923, 71934⟩, ⟨71943, 71944⟩, ⟨71946, 71947⟩, ⟨71956, 71956⟩, ⟨71959, 71959⟩, ⟨71990, 71990⟩,
  ⟨71993, 71994⟩, ⟨72007, 72015⟩, ⟨72026, 72095⟩, ⟨72104, 72105⟩, ⟨72152, 72153⟩, ⟨72165, 72191⟩,
  ⟨72264, 72271⟩, ⟨72355, 72367⟩, ⟨72441, 72447⟩, ⟨72458, 72543⟩, ⟨72552, 72639⟩, ⟨72674, 72687⟩,
  ⟨72698, 72703⟩, ⟨72713, 72713⟩, ⟨72759, 72759⟩, ⟨72774, 72783⟩, ⟨72813, 72815⟩, ⟨72848, 72849⟩,
  ⟨72872, 72872⟩, ⟨72887, 72959⟩, ⟨72967, 72967⟩, ⟨72970, 72970⟩, ⟨73015, 73017⟩, ⟨73019, 73019⟩,
  ⟨73022, 73022⟩, ⟨73032, 73039⟩, ⟨73050, 73055⟩, ⟨73062, 73062⟩, ⟨73065, 73065⟩, ⟨73103, 73103⟩,
  ⟨73106, 73106⟩, ⟨73113, 73119⟩, ⟨73130, 73135⟩, ⟨73180, 73183⟩, ⟨73194, 73439⟩, ⟨73465, 73471⟩,
  ⟨73489, 73489⟩, ⟨73531, 73533⟩, ⟨73563, 73647⟩, ⟨73649, 73663⟩, ⟨73714, 73726⟩, ⟨74650, 74751⟩,
  ⟨74863, 74863⟩, ⟨74869, 74879⟩, ⟨75076, 77711⟩, ⟨77811, 77823⟩, ⟨78896, 78911⟩, ⟨78934, 78943⟩,
  ⟨82939, 82943⟩, ⟨83527, 90367⟩, ⟨90426, 92159⟩, ⟨92729, 92735⟩, ⟨92767, 92767⟩, ⟨92778, 92781⟩,
  ⟨92863, 92863⟩, ⟨92874, 92879⟩, ⟨92910, 92911⟩, ⟨92918, 92927⟩, ⟨92998, 93007⟩, ⟨93018, 93018⟩,
  ⟨93026, 93026⟩, ⟨93048, 93052⟩, ⟨93072, 93503⟩, ⟨93562, 93759⟩, ⟨93851, 93855⟩, ⟨93881, 93882⟩,
  ⟨93908, 93951⟩, ⟨94027, 94030⟩, ⟨94088, 94094⟩, ⟨94112, 94175⟩, ⟨94181, 94191⟩, ⟨94199, 94207⟩,
  ⟨101590, 101630⟩, ⟨101663, 101759⟩, ⟨101875, 110575⟩, ⟨110580, 110580⟩, ⟨110588, 110588⟩,
  ⟨110591, 110591⟩, ⟨110883, 110897⟩, ⟨110899, 110927⟩, ⟨110931, 110932⟩, ⟨110934, 110947⟩,
  ⟨110952, 110959⟩, ⟨111356, 113663⟩, ⟨113771, 113775⟩, ⟨113789, 113791⟩, ⟨113801, 113807⟩,
  ⟨113818, 113819⟩, ⟨113828, 117759⟩, ⟨118013, 118015⟩, ⟨118452, 118457⟩, ⟨118481, 118495⟩,
  ⟨118513, 118527⟩, ⟨118574, 118575⟩, ⟨118599, 118607⟩, ⟨118724, 118783⟩, ⟨119030, 119039⟩,
  ⟨119079, 119080⟩, ⟨119275, 119295⟩, ⟨119366, 119487⟩, ⟨119508, 119519⟩, ⟨119540, 119551⟩,
  ⟨119639, 119647⟩, ⟨119673, 119807⟩, ⟨119893, 119893⟩, ⟨119965, 119965⟩, ⟨119968, 119969⟩,
  ⟨119971, 119972⟩, ⟨119975, 119976⟩, ⟨119981, 119981⟩, ⟨119994, 119994⟩, ⟨119996, 119996⟩,
  ⟨120004, 120004⟩, ⟨120070, 120070⟩, ⟨120075, 120076⟩, ⟨120085, 120085⟩, ⟨120093, 120093⟩,
  ⟨120122, 120122⟩, ⟨120127, 120127⟩, ⟨120133, 120133⟩, ⟨120135, 120137⟩, ⟨120145, 120145⟩,
  ⟨120486, 120487⟩, ⟨120780, 120781⟩, ⟨121484, 121498⟩, ⟨121504, 121504⟩, ⟨121520, 122623⟩,
  ⟨122655, 122660⟩, ⟨122667, 122879⟩, ⟨122887, 122887⟩, ⟨122905, 122906⟩, ⟨122914, 122914⟩,
  ⟨122917, 122917⟩, ⟨122923, 122927⟩, ⟨122990, 123022⟩, ⟨123024, 123135⟩, ⟨123181, 123183⟩,
  ⟨123198, 123199⟩, ⟨123210, 123213⟩, ⟨123216, 123535⟩, ⟨123567, 123583⟩, ⟨123642, 123646⟩,
  ⟨123648, 124111⟩, ⟨124154, 124367⟩, ⟨124411, 124414⟩, ⟨124416, 124607⟩, ⟨124639, 124639⟩,
  ⟨124662, 124669⟩, ⟨124672, 124895⟩, ⟨124903, 124903⟩, ⟨124908, 124908⟩, ⟨124911, 124911⟩,
  ⟨124927, 124927⟩, ⟨125125, 125126⟩, ⟨125143, 125183⟩, ⟨125260, 125263⟩, ⟨125274, 125277⟩,
  ⟨125280, 126064⟩, ⟨126133, 126208⟩, ⟨126270, 126463⟩, ⟨126468, 126468⟩, ⟨126496, 126496⟩,
  ⟨126499, 126499⟩, ⟨126501, 126502⟩, ⟨126504, 126504⟩, ⟨126515, 126515⟩, ⟨126520, 126520⟩,
  ⟨126522, 126522⟩, ⟨126524, 126529⟩, ⟨126531, 126534⟩, ⟨126536, 126536⟩, ⟨126538, 126538⟩,
  ⟨126540, 126540⟩, ⟨126544, 126544⟩, ⟨126547, 126547⟩, ⟨126549, 126550⟩, ⟨126552, 126552⟩,
  ⟨126554, 126554⟩, ⟨126556, 126556⟩, ⟨126558, 126558⟩, ⟨126560, 126560⟩, ⟨126563, 126563⟩,
  ⟨126565, 126566⟩, ⟨126571, 126571⟩, ⟨126579, 126579⟩, ⟨126584, 126584⟩, ⟨126589, 126589⟩,
  ⟨126591, 126591⟩, ⟨126602, 126602⟩, ⟨126620, 126624⟩, ⟨126628, 126628⟩, ⟨126634, 126634⟩,
  ⟨126652, 126703⟩, ⟨126706, 126975⟩, ⟨127020, 127023⟩, ⟨127124, 127135⟩, ⟨127151, 127152⟩,
  ⟨127168, 127168⟩, ⟨127184, 127184⟩, ⟨127222, 127232⟩, ⟨127406, 127461⟩, ⟨127491, 127503⟩,
  ⟨127548, 127551⟩, ⟨127561, 127567⟩, ⟨127570, 127583⟩, ⟨127590, 127743⟩, ⟨128729, 128731⟩,
  ⟨128749, 128751⟩, ⟨128765, 128767⟩, ⟨128986, 128991⟩, ⟨129004, 129007⟩, ⟨129009, 129023⟩,
  ⟨129036, 129039⟩, ⟨129096, 129103⟩, ⟨129114, 129119⟩, ⟨129160, 129167⟩, ⟨129198, 129199⟩,
  ⟨129212, 129215⟩, ⟨129218, 129231⟩, ⟨129241, 129279⟩, ⟨129624, 129631⟩, ⟨129646, 129647⟩,
  ⟨129661, 129663⟩, ⟨129675, 129677⟩, ⟨129735, 129735⟩, ⟨129737, 129740⟩, ⟨129757, 129758⟩,
  ⟨129771, 129774⟩, ⟨129785, 129791⟩, ⟨129939, 129939⟩, ⟨130043, 131071⟩, ⟨173792, 173823⟩,
  ⟨178206, 178207⟩, ⟨183982, 183983⟩, ⟨191457, 191471⟩, ⟨192094, 194559⟩, ⟨195102, 196607⟩,
  ⟨201547, 201551⟩, ⟨210042, 917759⟩, ⟨918000, 1114111⟩]

/-- The characters that vanish. -/
def vanishingRanges : List CodeRange := [
  ⟨173, 173⟩, ⟨847, 847⟩, ⟨4447, 4448⟩, ⟨6068, 6069⟩, ⟨6155, 6159⟩, ⟨8203, 8203⟩, ⟨8288, 8292⟩,
  ⟨8298, 8303⟩, ⟨12644, 12644⟩, ⟨65024, 65039⟩, ⟨65279, 65279⟩, ⟨65440, 65440⟩, ⟨113824, 113827⟩,
  ⟨119155, 119162⟩, ⟨917760, 917999⟩]

/-- The plain form of a character; none when it may not stand in a name. -/
def plainForm? (c : Char) : Option (List Char) :=
  let n := c.toNat
  match plainRuns.find? (·.covers n) with
  | some r => some [r.partner n]
  | none =>
    match longForms.lookup n with
    | some ms => some (ms.map Char.ofNat)
    | none =>
      if CodeRange.anyCovers vanishingRanges c then some []
      else if CodeRange.anyCovers forbiddenRanges c then none
      else some [c]

end HostWatch.DomainName
