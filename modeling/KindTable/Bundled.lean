import KindTable.GateSet
import KindTable.Text.Pad
import KindTable.Text.Split

namespace KindTable.Bundled

def origin : String := "tables/c2_nodes.nk"

def barrierGate : String := "shenandoah_gc"

def defaults : GateSet := .ofList [(barrierGate, false)]

def comments : List String := [
    "# C2 ideal-graph node kinds, in declaration order.",
    "#",
    "# One node kind per line. `soft(<capability>)` entries belong to an optional",
    "# GC barrier set: they are active when the capability is on, and follow the",
    "# classifier's soft fallback when it is off."]

def firstKinds : List String := [
    "AbsD AbsF AbsI AbsL AddD AddF AddI AddL AddP Allocate AllocateArray AndI AndL ArrayCopy AryEq AtanD",
    "Binary Blackhole Bool BoxLock ReverseBytesI ReverseBytesL ReverseBytesUS ReverseBytesS CProj CacheWB",
    "CacheWBPreSync CacheWBPostSync CallDynamicJava CallJava CallLeaf CallLeafNoFP CallLeafVector",
    "CallRuntime CallNative CallStaticJava CastDD CastFF CastII CastLL CastVV CastX2P CastP2X CastPP",
    "Catch CatchProj CheckCastPP ClearArray ConstraintCast CMoveD CMoveVD CMoveF CMoveVF CMoveI CMoveL",
    "CMoveP CMoveN CmpN CmpD CmpD3 CmpF CmpF3 CmpI CmpL CmpL3 CmpLTMask CmpP CmpU CmpUL CompareAndSwapB",
    "CompareAndSwapS CompareAndSwapI CompareAndSwapL CompareAndSwapP CompareAndSwapN WeakCompareAndSwapB",
    "WeakCompareAndSwapS WeakCompareAndSwapI WeakCompareAndSwapL WeakCompareAndSwapP WeakCompareAndSwapN",
    "CompareAndExchangeB CompareAndExchangeS CompareAndExchangeI CompareAndExchangeL CompareAndExchangeP",
    "CompareAndExchangeN GetAndAddB GetAndAddS GetAndAddI GetAndAddL GetAndSetB GetAndSetS GetAndSetI",
    "GetAndSetL GetAndSetP GetAndSetN Con ConN ConNKlass ConD ConF ConI ConL ConP Conv2B ConvD2F ConvD2I",
    "ConvD2L ConvF2D ConvF2I ConvF2L ConvI2D ConvI2F ConvI2L ConvL2D ConvL2F ConvL2I CountedLoop",
    "CountedLoopEnd OuterStripMinedLoop OuterStripMinedLoopEnd LongCountedLoop LongCountedLoopEnd",
    "CountLeadingZerosI CountLeadingZerosL CountTrailingZerosI CountTrailingZerosL CreateEx DecodeN",
    "DecodeNKlass DivD DivF DivI DivL DivMod DivModI DivModL EncodeISOArray EncodeP EncodePKlass FastLock",
    "FastUnlock FmaD FmaF Goto Halt HasNegatives If RangeCheck IfFalse IfTrue Initialize JProj Jump",
    "JumpProj LShiftI LShiftL LoadB LoadUB LoadUS LoadD LoadD_unaligned LoadF LoadI LoadKlass LoadNKlass",
    "LoadL LoadL_unaligned LoadPLocked LoadP LoadN LoadRange LoadS Lock Loop LoopLimit Mach MachNullCheck",
    "MachProj MulAddS2I MaxI MaxL MaxD MaxF MemBarAcquire LoadFence SetVectMaskI MemBarAcquireLock",
    "MemBarCPUOrder MemBarRelease StoreFence StoreStoreFence MemBarReleaseLock MemBarVolatile",
    "MemBarStoreStore MergeMem MinI MinL MinF MinD ModD ModF ModI ModL MoveI2F MoveF2I MoveL2D MoveD2L",
    "MulD MulF MulHiL UMulHiL MulI MulL Multi NegI NegL NegD NegF NeverBranch OnSpinWait Opaque1",
    "OpaqueLoopInit OpaqueLoopStride Opaque2 Opaque3 Opaque4 ProfileBoolean OrI OrL OverflowAddI",
    "OverflowSubI OverflowMulI OverflowAddL OverflowSubL OverflowMulL PCTable Parm PartialSubtypeCheck",
    "SubTypeCheck Phi PopCountI PopCountL PopCountVI PopCountVL PrefetchAllocation Proj RShiftI RShiftL",
    "Region Rethrow Return Root RoundDouble RoundDoubleMode RoundDoubleModeV RoundFloat RotateLeft",
    "RotateLeftV RotateRight RotateRightV SafePoint SafePointScalarObject"]

def barrierKinds : List String := [
    "ShenandoahCompareAndExchangeP",
    "ShenandoahCompareAndExchangeN",
    "ShenandoahCompareAndSwapN",
    "ShenandoahCompareAndSwapP",
    "ShenandoahWeakCompareAndSwapN",
    "ShenandoahWeakCompareAndSwapP",
    "ShenandoahIUBarrier",
    "ShenandoahLoadReferenceBarrier"]

def lastKinds : List String := [
    "SCMemProj CopySignD CopySignF SignumD SignumF SqrtD SqrtF Start StartOSR StoreB StoreC StoreCM",
    "StorePConditional StoreIConditional StoreLConditional StoreD StoreF StoreI StoreL StoreP StoreN",
    "StoreNKlass StrComp StrCompressedCopy StrEquals StrIndexOf StrIndexOfChar StrInflatedCopy SubD SubF",
    "SubI SubL TailCall TailJump MacroLogicV ThreadLocal Unlock URShiftB URShiftS URShiftI URShiftL XorI",
    "XorL Vector AddVB AddVS AddVI AddReductionVI AddVL AddReductionVL AddVF AddReductionVF AddVD",
    "AddReductionVD SubVB SubVS SubVI SubVL SubVF SubVD MulVB MulVS MulVI MulReductionVI MulVL",
    "MulReductionVL MulVF MulReductionVF MulVD MulReductionVD MulAddVS2VI FmaVD FmaVF DivVF DivVD AbsVB",
    "AbsVS AbsVI AbsVL AbsVF AbsVD NegVI NegVL NegVF NegVD SqrtVD SqrtVF LShiftCntV RShiftCntV LShiftVB",
    "LShiftVS LShiftVI LShiftVL RShiftVB RShiftVS RShiftVI RShiftVL URShiftVB URShiftVS URShiftVI",
    "URShiftVL AndV AndReductionV OrV OrReductionV XorV XorReductionV MinV MaxV MinReductionV",
    "MaxReductionV LoadVector LoadVectorGather LoadVectorGatherMasked StoreVector StoreVectorScatter",
    "StoreVectorScatterMasked LoadVectorMasked StoreVectorMasked VectorCmpMasked VectorMaskGen",
    "VectorMaskOp VectorMaskTrueCount VectorMaskFirstTrue VectorMaskLastTrue VectorMaskToLong",
    "VectorLongToMask Pack PackB PackS PackI PackL PackF PackD Pack2L Pack2D ReplicateB ReplicateS",
    "ReplicateI ReplicateL ReplicateF ReplicateD Extract ExtractB ExtractUB ExtractC ExtractS ExtractI",
    "ExtractL ExtractF ExtractD Digit LowerCase UpperCase Whitespace VectorBox VectorBoxAllocate",
    "VectorUnbox VectorMaskWrapper VectorMaskCmp VectorMaskCast VectorTest VectorBlend VectorRearrange",
    "VectorLoadMask VectorLoadShuffle VectorLoadConst VectorStoreMask VectorReinterpret VectorCast",
    "VectorCastB2X VectorCastS2X VectorCastI2X VectorCastL2X VectorCastF2X VectorCastD2X VectorUCastB2X",
    "VectorUCastS2X VectorUCastI2X VectorInsert MaskAll AndVMask OrVMask XorVMask"]

def kindLines (rows : List String) : List String := (rows.flatMap fun row => splitAt ' ' row.toList).map .ofList

def barrierLine (kind : String) : String := padRight 37 kind ++ "soft(" ++ barrierGate ++ ")"

def source : String :=
  joinLines (comments ++ [""] ++ kindLines firstKinds ++ barrierKinds.map barrierLine ++ kindLines lastKinds)

end KindTable.Bundled
