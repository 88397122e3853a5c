import ClusterDeploy.Text.Upper
/-!
# Folding of host names

The characters that a host name may be written with, and what they become before it is encoded:
letters lose their case, compatibility forms become the plain characters, ideographic full stops
become dots, invisible characters vanish. The tables cover the letters and symbols below U+3000 and
the full-width forms.
-/
namespace ClusterDeploy.Url

open Text

def foldRuns : List CaseRun := [
  ⟨0xA0, 0xA0, 1, -128⟩, ⟨0xAA, 0xAA, 1, -73⟩, ⟨0xB2, 0xB3, 1, -128⟩, ⟨0xB5, 0xB5, 1, 775⟩,
  ⟨0xB9, 0xB9, 1, -136⟩, ⟨0xBA, 0xBA, 1, -75⟩, ⟨0xC0, 0xD6, 1, 32⟩, ⟨0xD8, 0xDE, 1, 32⟩,
  ⟨0x100, 0x12E, 2, 1⟩, ⟨0x134, 0x136, 2, 1⟩, ⟨0x139, 0x13D, 2, 1⟩, ⟨0x141, 0x147, 2, 1⟩,
  ⟨0x14A, 0x176, 2, 1⟩, ⟨0x178, 0x178, 1, -121⟩, ⟨0x179, 0x17D, 2, 1⟩, ⟨0x17F, 0x17F, 1, -268⟩,
  ⟨0x181, 0x181, 1, 210⟩, ⟨0x182, 0x184, 2, 1⟩, ⟨0x186, 0x186, 1, 206⟩, ⟨0x187, 0x187, 1, 1⟩,
  ⟨0x189, 0x18A, 1, 205⟩, ⟨0x18B, 0x18B, 1, 1⟩, ⟨0x18E, 0x18E, 1, 79⟩, ⟨0x18F, 0x18F, 1, 202⟩,
  ⟨0x190, 0x190, 1, 203⟩, ⟨0x191, 0x191, 1, 1⟩, ⟨0x193, 0x193, 1, 205⟩, ⟨0x194, 0x194, 1, 207⟩,
  ⟨0x196, 0x196, 1, 211⟩, ⟨0x197, 0x197, 1, 209⟩, ⟨0x198, 0x198, 1, 1⟩, ⟨0x19C, 0x19C, 1, 211⟩,
  ⟨0x19D, 0x19D, 1, 213⟩, ⟨0x19F, 0x19F, 1, 214⟩, ⟨0x1A0, 0x1A4, 2, 1⟩, ⟨0x1A6, 0x1A6, 1, 218⟩,
  ⟨0x1A7, 0x1A7, 1, 1⟩, ⟨0x1A9, 0x1A9, 1, 218⟩, ⟨0x1AC, 0x1AC, 1, 1⟩, ⟨0x1AE, 0x1AE, 1, 218⟩,
  ⟨0x1AF, 0x1AF, 1, 1⟩, ⟨0x1B1, 0x1B2, 1, 217⟩, ⟨0x1B3, 0x1B5, 2, 1⟩, ⟨0x1B7, 0x1B7, 1, 219⟩,
  ⟨0x1B8, 0x1B8, 1, 1⟩, ⟨0x1BC, 0x1BC, 1, 1⟩, ⟨0x1CD, 0x1DB, 2, 1⟩, ⟨0x1DE, 0x1EE, 2, 1⟩,
  ⟨0x1F4, 0x1F4, 1, 1⟩, ⟨0x1F6, 0x1F6, 1, -97⟩, ⟨0x1F7, 0x1F7, 1, -56⟩, ⟨0x1F8, 0x21E, 2, 1⟩,
  ⟨0x220, 0x220, 1, -130⟩, ⟨0x222, 0x232, 2, 1⟩, ⟨0x23A, 0x23A, 1, 10795⟩, ⟨0x23B, 0x23B, 1, 1⟩,
  ⟨0x23D, 0x23D, 1, -163⟩, ⟨0x23E, 0x23E, 1, 10792⟩, ⟨0x241, 0x241, 1, 1⟩,
  ⟨0x243, 0x243, 1, -195⟩, ⟨0x244, 0x244, 1, 69⟩, ⟨0x245, 0x245, 1, 71⟩, ⟨0x246, 0x24E, 2, 1⟩,
  ⟨0x2B0, 0x2B0, 1, -584⟩, ⟨0x2B1, 0x2B1, 1, -75⟩, ⟨0x2B2, 0x2B2, 1, -584⟩,
  ⟨0x2B3, 0x2B3, 1, -577⟩, ⟨0x2B4, 0x2B4, 1, -59⟩, ⟨0x2B5, 0x2B5, 1, -58⟩, ⟨0x2B6, 0x2B6, 1, -53⟩,
  ⟨0x2B7, 0x2B7, 1, -576⟩, ⟨0x2B8, 0x2B8, 1, -575⟩, ⟨0x2E0, 0x2E0, 1, -125⟩,
  ⟨0x2E1, 0x2E1, 1, -629⟩, ⟨0x2E2, 0x2E2, 1, -623⟩, ⟨0x2E3, 0x2E3, 1, -619⟩,
  ⟨0x2E4, 0x2E4, 1, -79⟩, ⟨0x340, 0x341, 1, -64⟩, ⟨0x343, 0x343, 1, -48⟩, ⟨0x345, 0x345, 1, 116⟩,
  ⟨0x370, 0x372, 2, 1⟩, ⟨0x374, 0x374, 1, -187⟩, ⟨0x376, 0x376, 1, 1⟩, ⟨0x37E, 0x37E, 1, -835⟩,
  ⟨0x37F, 0x37F, 1, 116⟩, ⟨0x386, 0x386, 1, 38⟩, ⟨0x387, 0x387, 1, -720⟩, ⟨0x388, 0x38A, 1, 37⟩,
  ⟨0x38C, 0x38C, 1, 64⟩, ⟨0x38E, 0x38F, 1, 63⟩, ⟨0x391, 0x3A1, 1, 32⟩, ⟨0x3A3, 0x3AB, 1, 32⟩,
  ⟨0x3CF, 0x3CF, 1, 8⟩, ⟨0x3D0, 0x3D0, 1, -30⟩, ⟨0x3D1, 0x3D1, 1, -25⟩, ⟨0x3D2, 0x3D2, 1, -13⟩,
  ⟨0x3D3, 0x3D3, 1, -6⟩, ⟨0x3D4, 0x3D4, 1, -9⟩, ⟨0x3D5, 0x3D5, 1, -15⟩, ⟨0x3D6, 0x3D6, 1, -22⟩,
  ⟨0x3D8, 0x3EE, 2, 1⟩, ⟨0x3F0, 0x3F0, 1, -54⟩, ⟨0x3F1, 0x3F1, 1, -48⟩, ⟨0x3F2, 0x3F2, 1, -47⟩,
  ⟨0x3F4, 0x3F4, 1, -60⟩, ⟨0x3F5, 0x3F5, 1, -64⟩, ⟨0x3F7, 0x3F7, 1, 1⟩, ⟨0x3F9, 0x3F9, 1, -54⟩,
  ⟨0x3FA, 0x3FA, 1, 1⟩, ⟨0x3FD, 0x3FF, 1, -130⟩, ⟨0x400, 0x40F, 1, 80⟩, ⟨0x410, 0x42F, 1, 32⟩,
  ⟨0x460, 0x480, 2, 1⟩, ⟨0x48A, 0x4BE, 2, 1⟩, ⟨0x4C0, 0x4C0, 1, 15⟩, ⟨0x4C1, 0x4CD, 2, 1⟩,
  ⟨0x4D0, 0x52E, 2, 1⟩, ⟨0x531, 0x556, 1, 48⟩, ⟨0xF0C, 0xF0C, 1, -1⟩, ⟨0x10A0, 0x10C5, 1, 7264⟩,
  ⟨0x10C7, 0x10C7, 1, 7264⟩, ⟨0x10CD, 0x10CD, 1, 7264⟩, ⟨0x10FC, 0x10FC, 1, -32⟩,
  ⟨0x13F8, 0x13FD, 1, -8⟩, ⟨0x1C80, 0x1C80, 1, -6222⟩, ⟨0x1C81, 0x1C81, 1, -6221⟩,
  ⟨0x1C82, 0x1C82, 1, -6212⟩, ⟨0x1C83, 0x1C84, 1, -6210⟩, ⟨0x1C85, 0x1C85, 1, -6211⟩,
  ⟨0x1C86, 0x1C86, 1, -6204⟩, ⟨0x1C87, 0x1C87, 1, -6180⟩, ⟨0x1C88, 0x1C88, 1, 35267⟩,
  ⟨0x1C90, 0x1CBA, 1, -3008⟩, ⟨0x1CBD, 0x1CBF, 1, -3008⟩, ⟨0x1D2C, 0x1D2C, 1, -7371⟩,
  ⟨0x1D2D, 0x1D2D, 1, -7239⟩, ⟨0x1D2E, 0x1D30, 2, -7372⟩, ⟨0x1D31, 0x1D31, 1, -7372⟩,
  ⟨0x1D32, 0x1D32, 1, -6997⟩, ⟨0x1D33, 0x1D3A, 1, -7372⟩, ⟨0x1D3C, 0x1D3C, 1, -7373⟩,
  ⟨0x1D3D, 0x1D3D, 1, -6938⟩, ⟨0x1D3E, 0x1D3E, 1, -7374⟩, ⟨0x1D3F, 0x1D3F, 1, -7373⟩,
  ⟨0x1D40, 0x1D41, 1, -7372⟩, ⟨0x1D42, 0x1D42, 1, -7371⟩, ⟨0x1D43, 0x1D43, 1, -7394⟩,
  ⟨0x1D44, 0x1D45, 1, -6900⟩, ⟨0x1D46, 0x1D46, 1, -68⟩, ⟨0x1D47, 0x1D47, 1, -7397⟩,
  ⟨0x1D48, 0x1D49, 1, -7396⟩, ⟨0x1D4A, 0x1D4A, 1, -6897⟩, ⟨0x1D4B, 0x1D4C, 1, -6896⟩,
  ⟨0x1D4D, 0x1D4D, 1, -7398⟩, ⟨0x1D4F, 0x1D4F, 1, -7396⟩, ⟨0x1D50, 0x1D50, 1, -7395⟩,
  ⟨0x1D51, 0x1D51, 1, -7174⟩, ⟨0x1D52, 0x1D52, 1, -7395⟩, ⟨0x1D53, 0x1D53, 1, -6911⟩,
  ⟨0x1D54, 0x1D55, 1, -62⟩, ⟨0x1D56, 0x1D56, 1, -7398⟩, ⟨0x1D57, 0x1D58, 1, -7395⟩,
  ⟨0x1D59, 0x1D59, 1, -60⟩, ⟨0x1D5A, 0x1D5A, 1, -6891⟩, ⟨0x1D5B, 0x1D5B, 1, -7397⟩,
  ⟨0x1D5C, 0x1D5C, 1, -55⟩, ⟨0x1D5D, 0x1D5F, 1, -6571⟩, ⟨0x1D60, 0x1D61, 1, -6554⟩,
  ⟨0x1D62, 0x1D62, 1, -7417⟩, ⟨0x1D63, 0x1D63, 1, -7409⟩, ⟨0x1D64, 0x1D65, 1, -7407⟩,
  ⟨0x1D66, 0x1D67, 1, -6580⟩, ⟨0x1D68, 0x1D68, 1, -6567⟩, ⟨0x1D69, 0x1D6A, 1, -6563⟩,
  ⟨0x1D78, 0x1D78, 1, -6459⟩, ⟨0x1D9B, 0x1D9B, 1, -6985⟩, ⟨0x1D9C, 0x1D9C, 1, -7481⟩,
  ⟨0x1D9D, 0x1D9D, 1, -6984⟩, ⟨0x1D9E, 0x1D9E, 1, -7342⟩, ⟨0x1D9F, 0x1D9F, 1, -6979⟩,
  ⟨0x1DA0, 0x1DA0, 1, -7482⟩, ⟨0x1DA1, 0x1DA1, 1, -6978⟩, ⟨0x1DA2, 0x1DA2, 1, -6977⟩,
  ⟨0x1DA3, 0x1DA3, 1, -6974⟩, ⟨0x1DA4, 0x1DA6, 1, -6972⟩, ⟨0x1DA7, 0x1DA7, 1, -44⟩,
  ⟨0x1DA8, 0x1DA8, 1, -6923⟩, ⟨0x1DA9, 0x1DA9, 1, -6972⟩, ⟨0x1DAA, 0x1DAA, 1, -37⟩,
  ⟨0x1DAB, 0x1DAB, 1, -6924⟩, ⟨0x1DAC, 0x1DAC, 1, -6971⟩, ⟨0x1DAD, 0x1DAD, 1, -6973⟩,
  ⟨0x1DAE, 0x1DB1, 1, -6972⟩, ⟨0x1DB2, 0x1DB2, 1, -6970⟩, ⟨0x1DB3, 0x1DB4, 1, -6961⟩,
  ⟨0x1DB5, 0x1DB5, 1, -7178⟩, ⟨0x1DB6, 0x1DB7, 1, -6957⟩, ⟨0x1DB8, 0x1DB8, 1, -156⟩,
  ⟨0x1DB9, 0x1DBA, 1, -6958⟩, ⟨0x1DBB, 0x1DBB, 1, -7489⟩, ⟨0x1DBC, 0x1DBE, 1, -6956⟩,
  ⟨0x1DBF, 0x1DBF, 1, -6663⟩, ⟨0x1E00, 0x1E94, 2, 1⟩, ⟨0x1E9B, 0x1E9B, 1, -58⟩,
  ⟨0x1E9E, 0x1E9E, 1, -7615⟩, ⟨0x1EA0, 0x1EFE, 2, 1⟩, ⟨0x1F08, 0x1F0F, 1, -8⟩,
  ⟨0x1F18, 0x1F1D, 1, -8⟩, ⟨0x1F28, 0x1F2F, 1, -8⟩, ⟨0x1F38, 0x1F3F, 1, -8⟩,
  ⟨0x1F48, 0x1F4D, 1, -8⟩, ⟨0x1F59, 0x1F5F, 2, -8⟩, ⟨0x1F68, 0x1F6F, 1, -8⟩,
  ⟨0x1F71, 0x1F71, 1, -7109⟩, ⟨0x1F73, 0x1F73, 1, -7110⟩, ⟨0x1F75, 0x1F75, 1, -7111⟩,
  ⟨0x1F77, 0x1F77, 1, -7112⟩, ⟨0x1F79, 0x1F79, 1, -7085⟩, ⟨0x1F7B, 0x1F7B, 1, -7086⟩,
  ⟨0x1F7D, 0x1F7D, 1, -7087⟩, ⟨0x1FB8, 0x1FB9, 1, -8⟩, ⟨0x1FBA, 0x1FBA, 1, -74⟩,
  ⟨0x1FBB, 0x1FBB, 1, -7183⟩, ⟨0x1FBE, 0x1FBE, 1, -7173⟩, ⟨0x1FC8, 0x1FC8, 1, -86⟩,
  ⟨0x1FC9, 0x1FC9, 1, -7196⟩, ⟨0x1FCA, 0x1FCA, 1, -86⟩, ⟨0x1FCB, 0x1FCB, 1, -7197⟩,
  ⟨0x1FD3, 0x1FD3, 1, -7235⟩, ⟨0x1FD8, 0x1FD9, 1, -8⟩, ⟨0x1FDA, 0x1FDA, 1, -100⟩,
  ⟨0x1FDB, 0x1FDB, 1, -7212⟩, ⟨0x1FE3, 0x1FE3, 1, -7219⟩, ⟨0x1FE8, 0x1FE9, 1, -8⟩,
  ⟨0x1FEA, 0x1FEA, 1, -112⟩, ⟨0x1FEB, 0x1FEB, 1, -7198⟩, ⟨0x1FEC, 0x1FEC, 1, -7⟩,
  ⟨0x1FEF, 0x1FEF, 1, -8079⟩, ⟨0x1FF8, 0x1FF8, 1, -128⟩, ⟨0x1FF9, 0x1FF9, 1, -7213⟩,
  ⟨0x1FFA, 0x1FFA, 1, -126⟩, ⟨0x1FFB, 0x1FFB, 1, -7213⟩, ⟨0x2000, 0x2000, 1, -8160⟩,
  ⟨0x2001, 0x2001, 1, -8161⟩, ⟨0x2002, 0x2002, 1, -8162⟩, ⟨0x2003, 0x2003, 1, -8163⟩,
  ⟨0x2004, 0x2004, 1, -8164⟩, ⟨0x2005, 0x2005, 1, -8165⟩, ⟨0x2006, 0x2006, 1, -8166⟩,
  ⟨0x2007, 0x2007, 1, -8167⟩, ⟨0x2008, 0x2008, 1, -8168⟩, ⟨0x2009, 0x2009, 1, -8169⟩,
  ⟨0x200A, 0x200A, 1, -8170⟩, ⟨0x2011, 0x2011, 1, -1⟩, ⟨0x2024, 0x2024, 1, -8182⟩,
  ⟨0x202F, 0x202F, 1, -8207⟩, ⟨0x205F, 0x205F, 1, -8255⟩, ⟨0x2070, 0x2070, 1, -8256⟩,
  ⟨0x2071, 0x2071, 1, -8200⟩, ⟨0x2074, 0x2079, 1, -8256⟩, ⟨0x207A, 0x207A, 1, -8271⟩,
  ⟨0x207B, 0x207B, 1, 407⟩, ⟨0x207C, 0x207C, 1, -8255⟩, ⟨0x207D, 0x207E, 1, -8277⟩,
  ⟨0x207F, 0x207F, 1, -8209⟩, ⟨0x2080, 0x2089, 1, -8272⟩, ⟨0x208A, 0x208A, 1, -8287⟩,
  ⟨0x208B, 0x208B, 1, 391⟩, ⟨0x208C, 0x208C, 1, -8271⟩, ⟨0x208D, 0x208E, 1, -8293⟩,
  ⟨0x2090, 0x2090, 1, -8239⟩, ⟨0x2091, 0x2091, 1, -8236⟩, ⟨0x2092, 0x2092, 1, -8227⟩,
  ⟨0x2093, 0x2093, 1, -8219⟩, ⟨0x2094, 0x2094, 1, -7739⟩, ⟨0x2095, 0x2095, 1, -8237⟩,
  ⟨0x2096, 0x2099, 1, -8235⟩, ⟨0x209A, 0x209A, 1, -8234⟩, ⟨0x209B, 0x209C, 1, -8232⟩,
  ⟨0x2102, 0x2102, 1, -8351⟩, ⟨0x2107, 0x2107, 1, -7852⟩, ⟨0x210A, 0x210B, 1, -8355⟩,
  ⟨0x210C, 0x210C, 1, -8356⟩, ⟨0x210D, 0x210D, 1, -8357⟩, ⟨0x210E, 0x210E, 1, -8358⟩,
  ⟨0x210F, 0x210F, 1, -8168⟩, ⟨0x2110, 0x2110, 1, -8359⟩, ⟨0x2111, 0x2111, 1, -8360⟩,
  ⟨0x2112, 0x2112, 1, -8358⟩, ⟨0x2113, 0x2115, 2, -8359⟩, ⟨0x2119, 0x211B, 1, -8361⟩,
  ⟨0x211C, 0x211C, 1, -8362⟩, ⟨0x211D, 0x211D, 1, -8363⟩, ⟨0x2124, 0x2124, 1, -8362⟩,
  ⟨0x2126, 0x2126, 1, -7517⟩, ⟨0x2128, 0x2128, 1, -8366⟩, ⟨0x212A, 0x212A, 1, -8383⟩,
  ⟨0x212B, 0x212B, 1, -8262⟩, ⟨0x212C, 0x212D, 1, -8394⟩, ⟨0x212F, 0x212F, 1, -8394⟩,
  ⟨0x2130, 0x2131, 1, -8395⟩, ⟨0x2132, 0x2132, 1, 28⟩, ⟨0x2133, 0x2133, 1, -8390⟩,
  ⟨0x2134, 0x2134, 1, -8389⟩, ⟨0x2135, 0x2138, 1, -7013⟩, ⟨0x2139, 0x2139, 1, -8400⟩,
  ⟨0x213C, 0x213C, 1, -7548⟩, ⟨0x213D, 0x213D, 1, -7562⟩, ⟨0x213E, 0x213E, 1, -7563⟩,
  ⟨0x213F, 0x213F, 1, -7551⟩, ⟨0x2140, 0x2140, 1, 209⟩, ⟨0x2145, 0x2145, 1, -8417⟩,
  ⟨0x2146, 0x2147, 1, -8418⟩, ⟨0x2148, 0x2149, 1, -8415⟩, ⟨0x2160, 0x2160, 1, -8439⟩,
  ⟨0x2164, 0x2164, 1, -8430⟩, ⟨0x2169, 0x2169, 1, -8433⟩, ⟨0x216C, 0x216C, 1, -8448⟩,
  ⟨0x216D, 0x216E, 1, -8458⟩, ⟨0x216F, 0x216F, 1, -8450⟩, ⟨0x2170, 0x2170, 1, -8455⟩,
  ⟨0x2174, 0x2174, 1, -8446⟩, ⟨0x2179, 0x2179, 1, -8449⟩, ⟨0x217C, 0x217C, 1, -8464⟩,
  ⟨0x217D, 0x217E, 1, -8474⟩, ⟨0x217F, 0x217F, 1, -8466⟩, ⟨0x2183, 0x2183, 1, 1⟩,
  ⟨0x2329, 0x232A, 1, 3295⟩, ⟨0x2460, 0x2468, 1, -9263⟩, ⟨0x24B6, 0x24CF, 1, -9301⟩,
  ⟨0x24D0, 0x24E9, 1, -9327⟩, ⟨0x24EA, 0x24EA, 1, -9402⟩, ⟨0x2C00, 0x2C2F, 1, 48⟩,
  ⟨0x2C60, 0x2C60, 1, 1⟩, ⟨0x2C62, 0x2C62, 1, -10743⟩, ⟨0x2C63, 0x2C63, 1, -3814⟩,
  ⟨0x2C64, 0x2C64, 1, -10727⟩, ⟨0x2C67, 0x2C6B, 2, 1⟩, ⟨0x2C6D, 0x2C6D, 1, -10780⟩,
  ⟨0x2C6E, 0x2C6E, 1, -10749⟩, ⟨0x2C6F, 0x2C6F, 1, -10783⟩, ⟨0x2C70, 0x2C70, 1, -10782⟩,
  ⟨0x2C72, 0x2C72, 1, 1⟩, ⟨0x2C75, 0x2C75, 1, 1⟩, ⟨0x2C7C, 0x2C7C, 1, -11282⟩,
  ⟨0x2C7D, 0x2C7D, 1, -11271⟩, ⟨0x2C7E, 0x2C7F, 1, -10815⟩, ⟨0x2C80, 0x2CE2, 2, 1⟩,
  ⟨0x2CEB, 0x2CED, 2, 1⟩, ⟨0x2CF2, 0x2CF2, 1, 1⟩, ⟨0x2D6F, 0x2D6F, 1, -14⟩,
  ⟨0x2E9F, 0x2E9F, 1, 15662⟩, ⟨0x2EF3, 0x2EF3, 1, 28844⟩, ⟨0x2F00, 0x2F00, 1, 7936⟩,
  ⟨0x2F01, 0x2F01, 1, 7975⟩, ⟨0x2F02, 0x2F02, 1, 7988⟩, ⟨0x2F03, 0x2F03, 1, 7996⟩,
  ⟨0x2F04, 0x2F04, 1, 8021⟩, ⟨0x2F05, 0x2F05, 1, 8064⟩, ⟨0x2F06, 0x2F06, 1, 8070⟩,
  ⟨0x2F07, 0x2F07, 1, 8089⟩, ⟨0x2F08, 0x2F08, 1, 8114⟩, ⟨0x2F09, 0x2F09, 1, 8758⟩,
  ⟨0x2F0A, 0x2F0A, 1, 8795⟩, ⟨0x2F0B, 0x2F0B, 1, 8800⟩, ⟨0x2F0C, 0x2F0C, 1, 8822⟩,
  ⟨0x2F0D, 0x2F0D, 1, 8841⟩, ⟨0x2F0E, 0x2F0E, 1, 8861⟩, ⟨0x2F0F, 0x2F0F, 1, 8913⟩,
  ⟨0x2F10, 0x2F10, 1, 8933⟩, ⟨0x2F11, 0x2F11, 1, 8943⟩, ⟨0x2F12, 0x2F12, 1, 9097⟩,
  ⟨0x2F13, 0x2F13, 1, 9190⟩, ⟨0x2F14, 0x2F14, 1, 9217⟩, ⟨0x2F15, 0x2F15, 1, 9221⟩,
  ⟨0x2F16, 0x2F16, 1, 9250⟩, ⟨0x2F17, 0x2F17, 1, 9258⟩, ⟨0x2F18, 0x2F18, 1, 9284⟩,
  ⟨0x2F19, 0x2F19, 1, 9296⟩, ⟨0x2F1A, 0x2F1A, 1, 9320⟩, ⟨0x2F1B, 0x2F1B, 1, 9371⟩,
  ⟨0x2F1C, 0x2F1C, 1, 9388⟩, ⟨0x2F1D, 0x2F1D, 1, 9414⟩, ⟨0x2F1E, 0x2F1E, 1, 10169⟩,
  ⟨0x2F1F, 0x2F1F, 1, 10240⟩, ⟨0x2F20, 0x2F20, 1, 10699⟩, ⟨0x2F21, 0x2F21, 1, 10721⟩,
  ⟨0x2F22, 0x2F22, 1, 10728⟩, ⟨0x2F23, 0x2F23, 1, 10738⟩, ⟨0x2F24, 0x2F24, 1, 10755⟩,
  ⟨0x2F25, 0x2F25, 1, 10830⟩, ⟨0x2F26, 0x2F26, 1, 11306⟩, ⟨0x2F27, 0x2F27, 1, 11353⟩,
  ⟨0x2F28, 0x2F28, 1, 11472⟩, ⟨0x2F29, 0x2F29, 1, 11494⟩, ⟨0x2F2A, 0x2F2A, 1, 11512⟩,
  ⟨0x2F2B, 0x2F2B, 1, 11533⟩, ⟨0x2F2C, 0x2F2C, 1, 11586⟩, ⟨0x2F2D, 0x2F2D, 1, 11588⟩,
  ⟨0x2F2E, 0x2F2E, 1, 11949⟩, ⟨0x2F2F, 0x2F2F, 1, 11958⟩, ⟨0x2F30, 0x2F30, 1, 11969⟩,
  ⟨0x2F31, 0x2F31, 1, 11981⟩, ⟨0x2F32, 0x2F32, 1, 12096⟩, ⟨0x2F33, 0x2F33, 1, 12103⟩,
  ⟨0x2F34, 0x2F34, 1, 12107⟩, ⟨0x2F35, 0x2F35, 1, 12223⟩, ⟨0x2F36, 0x2F36, 1, 12232⟩,
  ⟨0x2F37, 0x2F37, 1, 12244⟩, ⟨0x2F38, 0x2F38, 1, 12251⟩, ⟨0x2F39, 0x2F39, 1, 12311⟩,
  ⟨0x2F3A, 0x2F3A, 1, 12327⟩, ⟨0x2F3B, 0x2F3B, 1, 12344⟩, ⟨0x2F3C, 0x2F3C, 1, 12423⟩,
  ⟨0x2F3D, 0x2F3D, 1, 13003⟩, ⟨0x2F3E, 0x2F3E, 1, 13048⟩, ⟨0x2F3F, 0x2F3F, 1, 13068⟩,
  ⟨0x2F40, 0x2F40, 1, 13807⟩, ⟨0x2F41, 0x2F41, 1, 13811⟩, ⟨0x2F42, 0x2F42, 1, 13893⟩,
  ⟨0x2F43, 0x2F43, 1, 13908⟩, ⟨0x2F44, 0x2F44, 1, 13920⟩, ⟨0x2F45, 0x2F45, 1, 13940⟩,
  ⟨0x2F46, 0x2F46, 1, 13978⟩, ⟨0x2F47, 0x2F47, 1, 13982⟩, ⟨0x2F48, 0x2F48, 1, 14248⟩,
  ⟨0x2F49, 0x2F49, 1, 14271⟩, ⟨0x2F4A, 0x2F4A, 1, 14302⟩, ⟨0x2F4B, 0x2F4B, 1, 15317⟩,
  ⟨0x2F4C, 0x2F4C, 1, 15382⟩, ⟨0x2F4D, 0x2F4D, 1, 15404⟩, ⟨0x2F4E, 0x2F4E, 1, 15461⟩,
  ⟨0x2F4F, 0x2F4F, 1, 15484⟩, ⟨0x2F50, 0x2F50, 1, 15492⟩, ⟨0x2F51, 0x2F51, 1, 15498⟩,
  ⟨0x2F52, 0x2F52, 1, 15549⟩, ⟨0x2F53, 0x2F53, 1, 15553⟩, ⟨0x2F54, 0x2F54, 1, 15584⟩,
  ⟨0x2F55, 0x2F55, 1, 16662⟩, ⟨0x2F56, 0x2F56, 1, 17108⟩, ⟨0x2F57, 0x2F57, 1, 17119⟩,
  ⟨0x2F58, 0x2F58, 1, 17123⟩, ⟨0x2F59, 0x2F59, 1, 17126⟩, ⟨0x2F5A, 0x2F5A, 1, 17133⟩,
  ⟨0x2F5B, 0x2F5B, 1, 17150⟩, ⟨0x2F5C, 0x2F5C, 1, 17151⟩, ⟨0x2F5D, 0x2F5D, 1, 17231⟩,
  ⟨0x2F5E, 0x2F5E, 1, 17446⟩, ⟨0x2F5F, 0x2F5F, 1, 17450⟩, ⟨0x2F60, 0x2F60, 1, 17788⟩,
  ⟨0x2F61, 0x2F61, 1, 17797⟩, ⟨0x2F62, 0x2F62, 1, 17846⟩, ⟨0x2F63, 0x2F63, 1, 17852⟩,
  ⟨0x2F64, 0x2F64, 1, 17860⟩, ⟨0x2F65, 0x2F65, 1, 17867⟩, ⟨0x2F66, 0x2F66, 1, 17957⟩,
  ⟨0x2F67, 0x2F67, 1, 17963⟩, ⟨0x2F68, 0x2F68, 1, 18190⟩, ⟨0x2F69, 0x2F69, 1, 18196⟩,
  ⟨0x2F6A, 0x2F6A, 1, 18244⟩, ⟨0x2F6B, 0x2F6B, 1, 18260⟩, ⟨0x2F6C, 0x2F6C, 1, 18306⟩,
  ⟨0x2F6D, 0x2F6D, 1, 18542⟩, ⟨0x2F6E, 0x2F6E, 1, 18548⟩, ⟨0x2F6F, 0x2F6F, 1, 18564⟩,
  ⟨0x2F70, 0x2F70, 1, 18890⟩, ⟨0x2F71, 0x2F71, 1, 19015⟩, ⟨0x2F72, 0x2F72, 1, 19020⟩,
  ⟨0x2F73, 0x2F73, 1, 19201⟩, ⟨0x2F74, 0x2F74, 1, 19287⟩, ⟨0x2F75, 0x2F75, 1, 19332⟩,
  ⟨0x2F76, 0x2F76, 1, 19709⟩, ⟨0x2F77, 0x2F77, 1, 19841⟩, ⟨0x2F78, 0x2F78, 1, 20414⟩,
  ⟨0x2F79, 0x2F79, 1, 20440⟩, ⟨0x2F7A, 0x2F7A, 1, 20496⟩, ⟨0x2F7B, 0x2F7B, 1, 20546⟩,
  ⟨0x2F7C, 0x2F7C, 1, 20613⟩, ⟨0x2F7D, 0x2F7D, 1, 20623⟩, ⟨0x2F7E, 0x2F7E, 1, 20628⟩,
  ⟨0x2F7F, 0x2F7F, 1, 20660⟩, ⟨0x2F80, 0x2F80, 1, 20735⟩, ⟨0x2F81, 0x2F81, 1, 20744⟩,
  ⟨0x2F82, 0x2F82, 1, 21089⟩, ⟨0x2F83, 0x2F83, 1, 21095⟩, ⟨0x2F84, 0x2F84, 1, 21103⟩,
  ⟨0x2F85, 0x2F85, 1, 21111⟩, ⟨0x2F86, 0x2F86, 1, 21126⟩, ⟨0x2F87, 0x2F87, 1, 21140⟩,
  ⟨0x2F88, 0x2F88, 1, 21143⟩, ⟨0x2F89, 0x2F89, 1, 21221⟩, ⟨0x2F8A, 0x2F8A, 1, 21224⟩,
  ⟨0x2F8B, 0x2F8B, 1, 21229⟩, ⟨0x2F8C, 0x2F8C, 1, 22209⟩, ⟨0x2F8D, 0x2F8D, 1, 22238⟩,
  ⟨0x2F8E, 0x2F8E, 1, 22706⟩, ⟨0x2F8F, 0x2F8F, 1, 22717⟩, ⟨0x2F90, 0x2F90, 1, 22739⟩,
  ⟨0x2F91, 0x2F91, 1, 23021⟩, ⟨0x2F92, 0x2F92, 1, 23033⟩, ⟨0x2F93, 0x2F93, 1, 23103⟩,
  ⟨0x2F94, 0x2F94, 1, 23148⟩, ⟨0x2F95, 0x2F95, 1, 23714⟩, ⟨0x2F96, 0x2F96, 1, 23728⟩,
  ⟨0x2F97, 0x2F97, 1, 23742⟩, ⟨0x2F98, 0x2F98, 1, 23776⟩, ⟨0x2F99, 0x2F99, 1, 23812⟩,
  ⟨0x2F9A, 0x2F9A, 1, 24010⟩, ⟨0x2F9B, 0x2F9B, 1, 24021⟩, ⟨0x2F9C, 0x2F9C, 1, 24087⟩,
  ⟨0x2F9D, 0x2F9D, 1, 24334⟩, ⟨0x2F9E, 0x2F9E, 1, 24364⟩, ⟨0x2F9F, 0x2F9F, 1, 24572⟩,
  ⟨0x2FA0, 0x2FA0, 1, 24592⟩, ⟨0x2FA1, 0x2FA1, 1, 24596⟩, ⟨0x2FA2, 0x2FA2, 1, 24815⟩,
  ⟨0x2FA3, 0x2FA3, 1, 24998⟩, ⟨0x2FA4, 0x2FA4, 1, 25122⟩, ⟨0x2FA5, 0x2FA5, 1, 25127⟩,
  ⟨0x2FA6, 0x2FA6, 1, 25131⟩, ⟨0x2FA7, 0x2FA7, 1, 26064⟩, ⟨0x2FA8, 0x2FA8, 1, 26072⟩,
  ⟨0x2FA9, 0x2FA9, 1, 26227⟩, ⟨0x2FAA, 0x2FAA, 1, 26380⟩, ⟨0x2FAB, 0x2FAB, 1, 26382⟩,
  ⟨0x2FAC, 0x2FAC, 1, 26428⟩, ⟨0x2FAD, 0x2FAD, 1, 26532⟩, ⟨0x2FAE, 0x2FAE, 1, 26544⟩,
  ⟨0x2FAF, 0x2FAF, 1, 26547⟩, ⟨0x2FB0, 0x2FB0, 1, 26553⟩, ⟨0x2FB1, 0x2FB1, 1, 26650⟩,
  ⟨0x2FB2, 0x2FB2, 1, 26683⟩, ⟨0x2FB3, 0x2FB3, 1, 26688⟩, ⟨0x2FB4, 0x2FB4, 1, 26701⟩,
  ⟨0x2FB5, 0x2FB5, 1, 26867⟩, ⟨0x2FB6, 0x2FB6, 1, 26917⟩, ⟨0x2FB7, 0x2FB7, 1, 26920⟩,
  ⟨0x2FB8, 0x2FB8, 1, 27102⟩, ⟨0x2FB9, 0x2FB9, 1, 27104⟩, ⟨0x2FBA, 0x2FBA, 1, 27122⟩,
  ⟨0x2FBB, 0x2FBB, 1, 27373⟩, ⟨0x2FBC, 0x2FBC, 1, 27420⟩, ⟨0x2FBD, 0x2FBD, 1, 27426⟩,
  ⟨0x2FBE, 0x2FBE, 1, 27495⟩, ⟨0x2FBF, 0x2FBF, 1, 27504⟩, ⟨0x2FC0, 0x2FC0, 1, 27506⟩,
  ⟨0x2FC1, 0x2FC1, 1, 27515⟩, ⟨0x2FC2, 0x2FC2, 1, 27544⟩, ⟨0x2FC3, 0x2FC3, 1, 27938⟩,
  ⟨0x2FC4, 0x2FC4, 1, 28337⟩, ⟨0x2FC5, 0x2FC5, 1, 28346⟩, ⟨0x2FC6, 0x2FC6, 1, 28383⟩,
  ⟨0x2FC7, 0x2FC7, 1, 28404⟩, ⟨0x2FC8, 0x2FC8, 1, 28411⟩, ⟨0x2FC9, 0x2FC9, 1, 28420⟩,
  ⟨0x2FCA, 0x2FCA, 1, 28423⟩, ⟨0x2FCB, 0x2FCB, 1, 28462⟩, ⟨0x2FCC, 0x2FCC, 1, 28465⟩,
  ⟨0x2FCD, 0x2FCD, 1, 28481⟩, ⟨0x2FCE, 0x2FCE, 1, 28485⟩, ⟨0x2FCF, 0x2FCF, 1, 28497⟩,
  ⟨0x2FD0, 0x2FD0, 1, 28523⟩, ⟨0x2FD1, 0x2FD1, 1, 28537⟩, ⟨0x2FD2, 0x2FD2, 1, 28544⟩,
  ⟨0x2FD3, 0x2FD3, 1, 28602⟩, ⟨0x2FD4, 0x2FD4, 1, 28616⟩, ⟨0x2FD5, 0x2FD5, 1, 28619⟩,
  ⟨0x3000, 0x3000, 1, -12256⟩, ⟨0x3002, 0x3002, 1, -12244⟩, ⟨0xFF01, 0xFF20, 1, -65248⟩,
  ⟨0xFF21, 0xFF3A, 1, -65216⟩, ⟨0xFF3B, 0xFF5E, 1, -65248⟩, ⟨0xFF61, 0xFF61, 1, -65331⟩]

def foldSpecial : List (Nat × List Nat) := [
  (0xA8, [0x20, 0x308]), (0xAF, [0x20, 0x304]), (0xB4, [0x20, 0x301]), (0xB8, [0x20, 0x327]),
  (0xBC, [0x31, 0x2044, 0x34]), (0xBD, [0x31, 0x2044, 0x32]), (0xBE, [0x33, 0x2044, 0x34]),
  (0x130, [0x69, 0x307]), (0x132, [0x69, 0x6A]), (0x133, [0x69, 0x6A]), (0x13F, [0x6C, 0xB7]),
  (0x140, [0x6C, 0xB7]), (0x149, [0x2BC, 0x6E]), (0x1C4, [0x64, 0x17E]), (0x1C5, [0x64, 0x17E]),
  (0x1C6, [0x64, 0x17E]), (0x1C7, [0x6C, 0x6A]), (0x1C8, [0x6C, 0x6A]), (0x1C9, [0x6C, 0x6A]),
  (0x1CA, [0x6E, 0x6A]), (0x1CB, [0x6E, 0x6A]), (0x1CC, [0x6E, 0x6A]), (0x1F1, [0x64, 0x7A]),
  (0x1F2, [0x64, 0x7A]), (0x1F3, [0x64, 0x7A]), (0x2D8, [0x20, 0x306]), (0x2D9, [0x20, 0x307]),
  (0x2DA, [0x20, 0x30A]), (0x2DB, [0x20, 0x328]), (0x2DC, [0x20, 0x303]), (0x2DD, [0x20, 0x30B]),
  (0x344, [0x308, 0x301]), (0x37A, [0x20, 0x3B9]), (0x384, [0x20, 0x301]),
  (0x385, [0x20, 0x308, 0x301]), (0x587, [0x565, 0x582]), (0x675, [0x627, 0x674]),
  (0x676, [0x648, 0x674]), (0x677, [0x6C7, 0x674]), (0x678, [0x64A, 0x674]),
  (0x958, [0x915, 0x93C]), (0x959, [0x916, 0x93C]), (0x95A, [0x917, 0x93C]),
  (0x95B, [0x91C, 0x93C]), (0x95C, [0x921, 0x93C]), (0x95D, [0x922, 0x93C]),
  (0x95E, [0x92B, 0x93C]), (0x95F, [0x92F, 0x93C]), (0x9DC, [0x9A1, 0x9BC]),
  (0x9DD, [0x9A2, 0x9BC]), (0x9DF, [0x9AF, 0x9BC]), (0xA33, [0xA32, 0xA3C]),
  (0xA36, [0xA38, 0xA3C]), (0xA59, [0xA16, 0xA3C]), (0xA5A, [0xA17, 0xA3C]),
  (0xA5B, [0xA1C, 0xA3C]), (0xA5E, [0xA2B, 0xA3C]), (0xB5C, [0xB21, 0xB3C]),
  (0xB5D, [0xB22, 0xB3C]), (0xE33, [0xE4D, 0xE32]), (0xEB3, [0xECD, 0xEB2]),
  (0xEDC, [0xEAB, 0xE99]), (0xEDD, [0xEAB, 0xEA1]), (0xF43, [0xF42, 0xFB7]),
  (0xF4D, [0xF4C, 0xFB7]), (0xF52, [0xF51, 0xFB7]), (0xF57, [0xF56, 0xFB7]),
  (0xF5C, [0xF5B, 0xFB7]), (0xF69, [0xF40, 0xFB5]), (0xF73, [0xF71, 0xF72]),
  (0xF75, [0xF71, 0xF74]), (0xF76, [0xFB2, 0xF80]), (0xF77, [0xFB2, 0xF71, 0xF80]),
  (0xF78, [0xFB3, 0xF80]), (0xF79, [0xFB3, 0xF71, 0xF80]), (0xF81, [0xF71, 0xF80]),
  (0xF93, [0xF92, 0xFB7]), (0xF9D, [0xF9C, 0xFB7]), (0xFA2, [0xFA1, 0xFB7]),
  (0xFA7, [0xFA6, 0xFB7]), (0xFAC, [0xFAB, 0xFB7]), (0xFB9, [0xF90, 0xFB5]),
  (0x1E9A, [0x61, 0x2BE]), (0x1F80, [0x1F00, 0x3B9]), (0x1F81, [0x1F01, 0x3B9]),
  (0x1F82, [0x1F02, 0x3B9]), (0x1F83, [0x1F03, 0x3B9]), (0x1F84, [0x1F04, 0x3B9]),
  (0x1F85, [0x1F05, 0x3B9]), (0x1F86, [0x1F06, 0x3B9]), (0x1F87, [0x1F07, 0x3B9]),
  (0x1F88, [0x1F00, 0x3B9]), (0x1F89, [0x1F01, 0x3B9]), (0x1F8A, [0x1F02, 0x3B9]),
  (0x1F8B, [0x1F03, 0x3B9]), (0x1F8C, [0x1F04, 0x3B9]), (0x1F8D, [0x1F05, 0x3B9]),
  (0x1F8E, [0x1F06, 0x3B9]), (0x1F8F, [0x1F07, 0x3B9]), (0x1F90, [0x1F20, 0x3B9]),
  (0x1F91, [0x1F21, 0x3B9]), (0x1F92, [0x1F22, 0x3B9]), (0x1F93, [0x1F23, 0x3B9]),
  (0x1F94, [0x1F24, 0x3B9]), (0x1F95, [0x1F25, 0x3B9]), (0x1F96, [0x1F26, 0x3B9]),
  (0x1F97, [0x1F27, 0x3B9]), (0x1F98, [0x1F20, 0x3B9]), (0x1F99, [0x1F21, 0x3B9]),
  (0x1F9A, [0x1F22, 0x3B9]), (0x1F9B, [0x1F23, 0x3B9]), (0x1F9C, [0x1F24, 0x3B9]),
  (0x1F9D, [0x1F25, 0x3B9]), (0x1F9E, [0x1F26, 0x3B9]), (0x1F9F, [0x1F27, 0x3B9]),
  (0x1FA0, [0x1F60, 0x3B9]), (0x1FA1, [0x1F61, 0x3B9]), (0x1FA2, [0x1F62, 0x3B9]),
  (0x1FA3, [0x1F63, 0x3B9]), (0x1FA4, [0x1F64, 0x3B9]), (0x1FA5, [0x1F65, 0x3B9]),
  (0x1FA6, [0x1F66, 0x3B9]), (0x1FA7, [0x1F67, 0x3B9]), (0x1FA8, [0x1F60, 0x3B9]),
  (0x1FA9, [0x1F61, 0x3B9]), (0x1FAA, [0x1F62, 0x3B9]), (0x1FAB, [0x1F63, 0x3B9]),
  (0x1FAC, [0x1F64, 0x3B9]), (0x1FAD, [0x1F65, 0x3B9]), (0x1FAE, [0x1F66, 0x3B9]),
  (0x1FAF, [0x1F67, 0x3B9]), (0x1FB2, [0x1F70, 0x3B9]), (0x1FB3, [0x3B1, 0x3B9]),
  (0x1FB4, [0x3AC, 0x3B9]), (0x1FB7, [0x1FB6, 0x3B9]), (0x1FBC, [0x3B1, 0x3B9]),
  (0x1FBD, [0x20, 0x313]), (0x1FBF, [0x20, 0x313]), (0x1FC0, [0x20, 0x342]),
  (0x1FC1, [0x20, 0x308, 0x342]), (0x1FC2, [0x1F74, 0x3B9]), (0x1FC3, [0x3B7, 0x3B9]),
  (0x1FC4, [0x3AE, 0x3B9]), (0x1FC7, [0x1FC6, 0x3B9]), (0x1FCC, [0x3B7, 0x3B9]),
  (0x1FCD, [0x20, 0x313, 0x300]), (0x1FCE, [0x20, 0x313, 0x301]), (0x1FCF, [0x20, 0x313, 0x342]),
  (0x1FDD, [0x20, 0x314, 0x300]), (0x1FDE, [0x20, 0x314, 0x301]), (0x1FDF, [0x20, 0x314, 0x342]),
  (0x1FED, [0x20, 0x308, 0x300]), (0x1FEE, [0x20, 0x308, 0x301]), (0x1FF2, [0x1F7C, 0x3B9]),
  (0x1FF3, [0x3C9, 0x3B9]), (0x1FF4, [0x3CE, 0x3B9]), (0x1FF7, [0x1FF6, 0x3B9]),
  (0x1FFC, [0x3C9, 0x3B9]), (0x1FFD, [0x20, 0x301]), (0x1FFE, [0x20, 0x314]),
  (0x2017, [0x20, 0x333]), (0x2025, [0x2E, 0x2E]), (0x2026, [0x2E, 0x2E, 0x2E]),
  (0x2033, [0x2032, 0x2032]), (0x2034, [0x2032, 0x2032, 0x2032]), (0x2036, [0x2035, 0x2035]),
  (0x2037, [0x2035, 0x2035, 0x2035]), (0x203C, [0x21, 0x21]), (0x203E, [0x20, 0x305]),
  (0x2047, [0x3F, 0x3F]), (0x2048, [0x3F, 0x21]), (0x2049, [0x21, 0x3F]),
  (0x2057, [0x2032, 0x2032, 0x2032, 0x2032]), (0x20A8, [0x72, 0x73]),
  (0x2100, [0x61, 0x2F, 0x63]), (0x2101, [0x61, 0x2F, 0x73]), (0x2103, [0xB0, 0x63]),
  (0x2105, [0x63, 0x2F, 0x6F]), (0x2106, [0x63, 0x2F, 0x75]), (0x2109, [0xB0, 0x66]),
  (0x2116, [0x6E, 0x6F]), (0x2120, [0x73, 0x6D]), (0x2121, [0x74, 0x65, 0x6C]),
  (0x2122, [0x74, 0x6D]), (0x213B, [0x66, 0x61, 0x78]), (0x2150, [0x31, 0x2044, 0x37]),
  (0x2151, [0x31, 0x2044, 0x39]), (0x2152, [0x31, 0x2044, 0x31, 0x30]),
  (0x2153, [0x31, 0x2044, 0x33]), (0x2154, [0x32, 0x2044, 0x33]), (0x2155, [0x31, 0x2044, 0x35]),
  (0x2156, [0x32, 0x2044, 0x35]), (0x2157, [0x33, 0x2044, 0x35]), (0x2158, [0x34, 0x2044, 0x35]),
  (0x2159, [0x31, 0x2044, 0x36]), (0x215A, [0x35, 0x2044, 0x36]), (0x215B, [0x31, 0x2044, 0x38]),
  (0x215C, [0x33, 0x2044, 0x38]), (0x215D, [0x35, 0x2044, 0x38]), (0x215E, [0x37, 0x2044, 0x38]),
  (0x215F, [0x31, 0x2044]), (0x2161, [0x69, 0x69]), (0x2162, [0x69, 0x69, 0x69]),
  (0x2163, [0x69, 0x76]), (0x2165, [0x76, 0x69]), (0x2166, [0x76, 0x69, 0x69]),
  (0x2167, [0x76, 0x69, 0x69, 0x69]), (0x2168, [0x69, 0x78]), (0x216A, [0x78, 0x69]),
  (0x216B, [0x78, 0x69, 0x69]), (0x2171, [0x69, 0x69]), (0x2172, [0x69, 0x69, 0x69]),
  (0x2173, [0x69, 0x76]), (0x2175, [0x76, 0x69]), (0x2176, [0x76, 0x69, 0x69]),
  (0x2177, [0x76, 0x69, 0x69, 0x69]), (0x2178, [0x69, 0x78]), (0x217A, [0x78, 0x69]),
  (0x217B, [0x78, 0x69, 0x69]), (0x2189, [0x30, 0x2044, 0x33])]

def isInvisible (n : Nat) : Bool :=
  n == 0xAD || n == 0x34F || n == 0x200B || n == 0x2060 || n == 0x2064 || n == 0xFEFF ||
    (0x180B ≤ n && n ≤ 0x180F && n != 0x180E) || (0xFE00 ≤ n && n ≤ 0xFE0F) ||
    (0xE0100 ≤ n && n ≤ 0xE01EF)

/-- Characters that no host name may hold: controls, direction marks, joiners, private use,
replacement and non-characters. -/
def isForeign (n : Nat) : Bool :=
  (0x80 ≤ n && n ≤ 0x9F) || n == 0x61C || n == 0x180E || (0x200C ≤ n && n ≤ 0x200F) ||
    (0x2028 ≤ n && n ≤ 0x202E) || (0x2061 ≤ n && n ≤ 0x2063) || (0x2065 ≤ n && n ≤ 0x206F) ||
    (0x2FF0 ≤ n && n ≤ 0x2FFF) || (0xE000 ≤ n && n ≤ 0xF8FF) || (0xFDD0 ≤ n && n ≤ 0xFDEF) ||
    (0xFFF0 ≤ n && n ≤ 0xFFFF) || (n % 0x10000 ≥ 0xFFFE) || (0xE0000 ≤ n && n ≤ 0xE00FF) ||
    0xF0000 ≤ n

/-- Combining marks, with which no label may start. -/
def isCombining (n : Nat) : Bool :=
  (0x300 ≤ n && n ≤ 0x36F) || (0x483 ≤ n && n ≤ 0x489) || (0x591 ≤ n && n ≤ 0x5BD) ||
    (0x64B ≤ n && n ≤ 0x65F) || (0x1AB0 ≤ n && n ≤ 0x1AFF) || (0x1DC0 ≤ n && n ≤ 0x1DFF) ||
    (0x20D0 ≤ n && n ≤ 0x20F0) || (0x302A ≤ n && n ≤ 0x302F) || (0x3099 ≤ n && n ≤ 0x309A) ||
    (0xFE20 ≤ n && n ≤ 0xFE2F)

def foldChar (c : Char) : List Char :=
  let n := c.toNat
  if n < 0x80 then [c.toLower]
  else if isInvisible n then []
  else
    match foldSpecial.find? fun e => e.1 == n with
    | some (_, codes) => codes.map Char.ofNat
    | none =>
      match foldRuns.find? fun r => r.covers n with
      | some r => [Char.ofNat (n + r.shift).toNat]
      | none => [c]

end ClusterDeploy.Url
