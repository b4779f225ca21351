/-! # Property names

The names of the Unicode properties, one property per entry, entries separated by semicolons and names by commas; the long name is the second.
-/

namespace BlockProgram.Unicode.Tables

/-- Every property with its aliases. -/
def propertyNameTable : String :=
  "age,Age;AHex,ASCII_Hex_Digit;Alpha,Alphabetic;bc,Bidi_Class;Bidi_C,Bidi_Control;Bidi_M,Bidi_Mirrored;blk,Block;bmg,Bidi_Mirroring_Glyph;bpb,Bidi_Paired_Bracket;bpt,Bidi_Paired_Bracket_Type;Cased,Cased;ccc,Canonical_Combining_Class;CE,Composition_Exclusion;cf,Case_Folding;CI,Case_Ignorable;Comp_Ex,Full_Composition_Exclusion;CWCF,Changes_When_Casefolded;CWCM,Changes_When_Casemapped;CWKCF,Changes_When_NFKC_Casefolded;CWL,Changes_When_Lowercased;CWT,Changes_When_Titlecased;CWU,Changes_When_Uppercased;Dash,Dash;Dep,Deprecated;DI,Default_Ignorable_Code_Point;Dia,Diacritic;dm,Decomposition_Mapping;dt,Decomposition_Type;ea,East_Asian_Width;EBase,Emoji_Modifier_Base;EComp,Emoji_Component;EMod,Emoji_Modifier;Emoji,Emoji;EPres,Emoji_Presentation;EqUIdeo,Equivalent_Unified_Ideograph;Ext,Extender;ExtPict,Extended_Pictographic;gc,General_Category;GCB,Grapheme_Cluster_Break;Gr_Base,Grapheme_Base;Gr_Ext,Grapheme_Extend;Gr_Link,Grapheme_Link;Hex,Hex_Digit;hst,Hangul_Syllable_Type;Hyphen,Hyphen;ID_Compat_Math_Continue,ID_Compat_Math_Continue;ID_Compat_Math_Start,ID_Compat_Math_Start;IDC,ID_Continue;Ideo,Ideographic;IDS,ID_Start;IDSB,IDS_Binary_Operator;IDST,IDS_Trinary_Operator;IDSU,IDS_Unary_Operator;InCB,Indic_Conjunct_Break;InPC,Indic_Positional_Category;InSC,Indic_Syllabic_Category;isc,ISO_Comment;jg,Joining_Group;Join_C,Join_Control;jt,Joining_Type;lb,Line_Break;lc,Lowercase_Mapping;LOE,Logical_Order_Exception;Lower,Lowercase;Math,Math;MCM,Modifier_Combining_Mark;na,Name;na1,Unicode_1_Name;Name_Alias,Name_Alias;NChar,Noncharacter_Code_Point;NFC_QC,NFC_Quick_Check;NFD_QC,NFD_Quick_Check;NFKC_CF,NFKC_Casefold;NFKC_QC,NFKC_Quick_Check;NFKD_QC,NFKD_Quick_Check;nt,Numeric_Type;nv,Numeric_Value;OAlpha,Other_Alphabetic;ODI,Other_Default_Ignorable_Code_Point;OGr_Ext,Other_Grapheme_Extend;OIDC,Other_ID_Continue;OIDS,Other_ID_Start;OLower,Other_Lowercase;OMath,Other_Math;OUpper,Other_Uppercase;Pat_Syn,Pattern_Syntax;Pat_WS,Pattern_White_Space;PCM,Prepended_Concatenation_Mark;QMark,Quotation_Mark;Radical,Radical;RI,Regional_Indicator;SB,Sentence_Break;sc,Script;scf,Simple_Case_Folding,Sfc;scx,Script_Extensions;SD,Soft_Dotted;slc,Simple_Lowercase_Mapping;stc,Simple_Titlecase_Mapping;STerm,Sentence_Terminal;suc,Simple_Uppercase_Mapping;tc,Titlecase_Mapping;Term,Terminal_Punctuation;uc,Uppercase_Mapping;UIdeo,Unified_Ideograph;Upper,Uppercase;vo,Vertical_Orientation;VS,Variation_Selector;WB,Word_Break;WSpace,White_Space,Space;XIDC,XID_Continue;XIDS,XID_Start"

end BlockProgram.Unicode.Tables
